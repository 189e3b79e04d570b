/-!
# The banner

Shown when a session opens and after the screen was cleared.
-/

namespace TreeShell.Banner

def lines : List String :=
  ["DEVOPS CRIME INVESTIGATION BUREAU",
    "Recruitment Screening Terminal v1.0",
    "",
    "Welcome, Candidate.",
    "",
    "DCIB systems cannot be accessed without proving technical competence.",
    "",
    "OBJECTIVE:",
    "Locate your Agent Credentials hidden within this system.",
    "",
    "Allowed commands:",
    "ls",
    "cd",
    "cat",
    "pwd",
    "clear",
    "",
    "Begin."]

end TreeShell.Banner
