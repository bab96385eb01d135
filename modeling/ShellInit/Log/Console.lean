import ShellInit.Log.Event

/-!
# Console lines

How events look on the console, with or without colours.
-/

namespace ShellInit

/-- A text in a style of the terminal. -/
def painted (ansi : Bool) (style text : String) : String :=
  if ansi then s!"\x1b[{style}m{text}\x1b[0m" else text

def failureLine (ansi : Bool) (message : String) : String :=
  painted ansi "31" "ERROR" ++ s!" {message}\n"

def Event.line (ansi : Bool) (e : Event) : String :=
  match e.level with
  | .error => failureLine ansi e.text
  | .warn => painted ansi "33" "WARN" ++ s!"  {e.text}\n"
  | .info =>
    if e.isStage then painted ansi "1;34" "==>" ++ " " ++ painted ansi "1" e.text ++ "\n"
    else s!"  {e.text}\n"
  | .debug | .trace => "  " ++ painted ansi "2" e.text ++ "\n"

end ShellInit
