import RadixForest.Proofs.Settings.Layers

/-!
The environment as a set. Variables of which none names a part of what another names may come in any
order, and those that name nothing of the settings may come and go. The entries of the file lie in
no order either, which matters where one of its names starts another.
-/

namespace RadixForest.Settings

open Document

abbrev carried (leading : String) (environment : List (String × String)) :
    List (String × String) :=
  environment.filter fun given => carries leading given.1

def Plain (entries : Table) : Prop :=
  ∀ entry ∈ entries, isScalar entry.2 ∧ ∀ part ∈ partsOf entry.1, isIdentifier part

theorem Plain.perm {entries others : Table} (plain : Plain entries)
    (reordered : others.Perm entries) : Plain others :=
  fun entry member => plain entry (reordered.mem_iff.mp member)

theorem Plain.layer {entries : Table} (plain : Plain entries) (document : Value) :
    document.layer entries = .ok (document.lay entries) :=
  Value.layer_eq_lay (fun entry member => (plain entry member).2) document

section Arranged

variable {leading : String} {environment environment' : List (String × String)} {own their : Table}
  (separate : environment.Pairwise (Separate leading))
  (arranged : own.Perm (environmentLayer leading environment))
  (arranged' : their.Perm (environmentLayer leading environment'))

include separate arranged

include arranged'

end Arranged

def Loader.base (loader : Loader) (entries : Table) : Except Panic Value :=
  (Value.table (toDocument {})).layer (loader.order.arrange .file entries)

/-- The loaders have one file and one prefix, and the names of the file lie apart unless both take
its entries in one order. -/
structure Loader.Agrees (loader other : Loader) (files : Files) : Prop where
  path : other.path = loader.path
  leading : other.leading = loader.leading
  file : ∀ entries, loader.entries files = .ok entries → Alike.Tidy entries ∨
    other.order.arrange .file entries = loader.order.arrange .file entries

theorem Loader.load_base {loader : Loader} {files : Files} {entries : Table}
    (found : loader.entries files = .ok entries) (environment : List (String × String)) :
    loader.load files environment = (loader.base entries >>= fun document =>
      document.layer (loader.order.arrange .environment
        (environmentLayer loader.leading environment))).map ofDocument := by
  rw [Loader.load_eq found]
  exact map_ofDocument_alike (stack_defaults _ _ _)

namespace Loader.Agrees

variable {loader other : Loader} {files : Files}

theorem entries (agrees : loader.Agrees other files) :
    other.entries files = loader.entries files := by
  rw [Loader.entries, Loader.entries, agrees.path]

theorem base (agrees : loader.Agrees other files) {entries : Table}
    (found : loader.entries files = .ok entries) :
    Alike.Outcome (other.base entries) (loader.base entries) := by
  rcases agrees.file entries found with tidy | same
  · have reordered := (other.order.perm .file entries).trans (loader.order.perm .file entries).symm
    exact Alike.layer_perm (tidy.perm (other.order.perm .file entries).symm) reordered (.refl _)
  · rw [Loader.base, same]
    exact .refl _

theorem load (agrees : loader.Agrees other files)
    {environment environment' : List (String × String)}
    (same : ∀ entries, loader.entries files = .ok entries → ∀ document,
      loader.base entries = .ok document →
      ((document.layer (other.order.arrange .environment
          (environmentLayer loader.leading environment'))).map ofDocument =
        (document.layer (loader.order.arrange .environment
          (environmentLayer loader.leading environment))).map ofDocument)) :
    other.load files environment' = loader.load files environment := by
  cases found : loader.entries files with
  | error cause => rw [Loader.load, Loader.load, agrees.entries, found]
  | ok entries =>
      rw [load_base found, load_base (agrees.entries.trans found), agrees.leading]
      have base := agrees.base found
      generalize other.base entries = theirs at base ⊢
      cases made : loader.base entries with
      | error panic =>
          rw [made] at base
          cases base
          rfl
      | ok document =>
          rw [made] at base
          cases base with
          | made values =>
              exact (map_ofDocument_alike (Alike.layer _ values)).trans
                (same entries found document made)

end Loader.Agrees

def Order.backwards : Order :=
  ⟨fun _ entries => entries.reverse, fun _ entries => List.reverse_perm entries⟩

end RadixForest.Settings
