/-!
# What a program says when it fails

`Trouble.text` tells what went wrong and what caused it, each cause on lines of its own.
-/

namespace Sluice.Command.Trouble

/-- The lines of a cause: the first one after a mark, the others below it. -/
def causeText (mark margin cause : String) : String :=
  "\n" ++ mark ++ ("\n" ++ margin).intercalate (cause.splitOn "\n")

/-- The number of a cause in five columns. -/
def mark (n : Nat) : String :=
  String.ofList (List.replicate (5 - (toString n).length) ' ') ++ toString n ++ ": "

/-- The causes, which have numbers if there is more than one. -/
def causesText : List String → String
  | [] => ""
  | [cause] => "\n\nCaused by:" ++ causeText "    " "    " cause
  | causes =>
    "\n\nCaused by:" ++ String.join (causes.zipIdx.map fun (cause, n) =>
      causeText (mark n) "       " cause)

/-- What went wrong, followed by its causes. -/
def text : List String → String
  | [] => "Error: \n"
  | what :: causes => "Error: " ++ what ++ causesText causes ++ "\n"

end Sluice.Command.Trouble
