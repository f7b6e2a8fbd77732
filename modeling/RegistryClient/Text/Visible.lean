import RegistryClient.Text.Combining
import RegistryClient.Text.Range
import RegistryClient.Text.Unprintable

/-!
# Characters that show by themselves

A character shows by itself when it has a visible form and does not merely extend
the character before it.
-/

namespace RegistryClient.Text

/-- A character that shows by itself. -/
def isVisible (c : Char) : Bool :=
  !inRanges unprintableRanges c && !inRanges combiningRanges c

end RegistryClient.Text
