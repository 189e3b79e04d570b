import TreeShell.Path
/-!
# Sessions

What a session remembers is where its home is and where it stands. `shownPath` shows the location
relative to home when it lies there.
-/

namespace TreeShell

structure Session where
  home : Path
  current : Path
  deriving DecidableEq

namespace Session

/-- A session that stands at its home. -/
def opened (home : Path) : Session := ⟨home, home⟩

def moveTo (s : Session) (path : Path) : Session := { s with current := path }

def reset (s : Session) : Session := s.moveTo s.home

/-- The location as the prompt shows it: `~` for home, `~/a/b` below it, and the whole path elsewhere. -/
def shownPath (s : Session) : String :=
  match s.current.below? s.home with
  | some [] => "~"
  | some rest => "~/" ++ Text.join "/" rest
  | none => s.current.text

end Session

end TreeShell
