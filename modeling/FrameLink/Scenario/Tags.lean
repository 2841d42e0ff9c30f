import FrameLink.Wait.Bell
/-!
The names under which a scenario starts calls, cancels them and lists what they came to.
-/

namespace FrameLink.Scenario

open Wait

structure Tags where
  entries : List (String × Ticket) := []
deriving Inhabited

namespace Tags

def find? (tag : String) (tags : Tags) : Option Ticket :=
  (tags.entries.find? fun entry => entry.1 == tag).map (·.2)

def erase (tag : String) (tags : Tags) : Tags :=
  ⟨tags.entries.filter fun entry => entry.1 != tag⟩

def put (tag : String) (ticket : Ticket) (tags : Tags) : Tags :=
  ⟨(tags.erase tag).entries ++ [(tag, ticket)]⟩

/-- The results of named calls, sorted by name, and the names that are still in use. -/
def finish {β : Type} (results : List (Ticket × β)) (tags : Tags) : List (String × β) × Tags :=
  let done := tags.entries.filterMap fun (tag, ticket) =>
    (results.find? fun result => result.1 == ticket).map fun result => (tag, result.2)
  (done.mergeSort fun a b => a.1 ≤ b.1,
    ⟨tags.entries.filter fun entry => !results.any fun result => result.1 == entry.2⟩)

end Tags

end FrameLink.Scenario
