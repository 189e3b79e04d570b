import TreeShell.Tree
/-!
# The built-in tree

The files of the recruitment screening: a brief, the records, and a folder with the credentials, all
below `/home/recruit`.
-/

namespace TreeShell.Bureau

def brief : String := "Review all directories. Agent credentials are hidden in plain sight."

def candidatesLog : String := "Candidates screened: 72\nQualified this cycle: 3"

def credentials : String := "Agent Credentials:\nID: DCIB-17-ALPHA\nPassphrase: NIGHTFALL-SIGNAL"

def profile : String := "export ROLE=candidate\nexport CLEARANCE=none"

/-- The recruit's home directory. -/
def recruit : List (String × Node) :=
  [(".profile", .file profile), ("brief.txt", .file brief),
    ("records", .directory [("candidates.log", .file candidatesLog)]),
    ("secure", .directory [("credentials.txt", .file credentials)])]

/-- The tree that a terminal shows when it is given none. -/
def tree : Tree := ⟨⟨[("home", .directory [("recruit", .directory recruit)])]⟩⟩

end TreeShell.Bureau
