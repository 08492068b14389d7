import CycleLog.Template.Operation

/-!
# Arguments of filters, tests and functions

Arguments are given by position or by name. An argument too many, and one of a name that nothing is
known of, is a fault; one that is left out is undefined.
-/

namespace CycleLog.Template
set_option autoImplicit false

structure Args where
  given : List Datum
  named : List (String × Datum)

/-- So many arguments by position, undefined where there is none. -/
def Args.positional (a : Args) (n : Nat) : Except Fault (List Datum) :=
  if n < a.given.length ∨ a.named ≠ [] then .error .badArguments
  else .ok (a.given ++ List.replicate (n - a.given.length) .undefined)

/-- The arguments of the given names, undefined where there is none. -/
def Args.byName (a : Args) (names : List String) : Except Fault (List Datum) :=
  if a.given ≠ [] ∨ a.named.any (fun p => !names.contains p.1) then .error .badArguments
  else .ok (names.map fun n => (a.named.lookup n).getD .undefined)

def Args.empty (a : Args) : Except Fault Unit := (a.positional 0).map fun _ => ()

/-- One argument, undefined if it is not there. -/
def Args.one (a : Args) : Except Fault Datum := do
  match ← a.positional 1 with
  | [d] => .ok d
  | _ => .error .badArguments

def Args.two (a : Args) : Except Fault (Datum × Datum) := do
  match ← a.positional 2 with
  | [d, e] => .ok (d, e)
  | _ => .error .badArguments

def required : Datum → Except Fault Datum
  | .undefined => .error .badArguments
  | d => .ok d

def orElse (d other : Datum) : Datum :=
  match d with
  | .undefined | .none => other
  | d => d

end CycleLog.Template
