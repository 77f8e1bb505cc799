/-!
# Failed loads

An asset can be missing from its store, or the store can fail to read it.
-/

namespace Storyboard

/-- Why an asset could not be loaded. -/
inductive AssetFault where
  /-- The store has no asset of that name. -/
  | notFound (name : String)
  /-- The store has it and cannot read it. -/
  | unreadable (name reason : String)
  deriving DecidableEq

namespace AssetFault

/-- The wording of the failure. -/
def message : AssetFault → String
  | notFound name => s!"asset \"{name}\" was not found"
  | unreadable name reason => s!"asset \"{name}\" failed to load: {reason}"

end AssetFault

end Storyboard
