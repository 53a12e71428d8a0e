import RadixForest.Files
import RadixForest.Log.Record
import RadixForest.Registry
import RadixForest.Settings.Basic

/-!
Failures of the program as a whole, and how they are reported: with the component in which they
occurred, to the reporter that is installed.
-/

namespace RadixForest

inductive Failure
  | settings (cause : SettingsError)
  | trie (cause : Registry.AccessError)
  | io (cause : String)
  | custom (text : String)
deriving DecidableEq, Repr

def Failure.cause : Failure → String
  | .settings cause => cause.message
  | .trie cause => cause.message
  | .io cause => cause
  | .custom text => text

def Failure.message (failure : Failure) : String :=
  (match failure with
    | .settings _ => "Configuration error: "
    | .trie _ => "Trie error: "
    | .io _ => "IO error: "
    | .custom _ => "") ++ failure.cause

def Failure.ofRead (cause : ReadError) : Failure := .io cause.message

structure Report where
  failure : Failure
  component : String
  details : Option String := none
deriving DecidableEq, Repr

def Report.text (report : Report) : String :=
  "Error in " ++ report.component ++ ": " ++ report.failure.message ++
    (match report.details with
      | some details => "\nDetails: " ++ details
      | none => "")

def Report.record (report : Report) : Log.Record :=
  { level := .error
    source := .failure
    message := "Error reported"
    details := [("error", .text report.failure.message), ("component", .text report.component),
      ("details", .text (report.details.getD "None"))] }

inductive Reporter
  | sink (name : String)
  | log
deriving DecidableEq, Repr

structure Delivery where
  sinks : List (String × String) := []
  records : List Log.Record := []
  printed : List String := []
deriving DecidableEq, Repr

/-- Hands a report to the reporter that is installed, if any. -/
def Report.deliver (report : Report) : Option Reporter → Delivery
  | some (.sink name) => { sinks := [(name, report.text)] }
  | some .log => { records := [report.record] }
  | none => { printed := ["Error: " ++ report.text] }

end RadixForest
