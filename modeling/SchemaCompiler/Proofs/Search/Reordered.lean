import Mathlib.Data.List.Induction
import SchemaCompiler.Files.Assets
import SchemaCompiler.Proofs.PathOrder

namespace SchemaCompiler

/-! # Searches of a tree in another order

What a search finds, and in which order, and what it fails with does not depend on the order of the
entries of the tree (`Assets.discover_reordered`): places are looked up by their names, and what is
below a directory is put into the order of a walk.
-/

namespace FileTree

/-- The tree has the same entries and refusals, perhaps in another order. -/
structure Reordered (tree other : FileTree) : Prop where
  entries : tree.entries.entries.Perm other.entries.entries
  refusals : tree.refusals.entries.Perm other.refusals.entries

variable {tree other : FileTree}

theorem Reordered.node? (h : Reordered tree other) : tree.node? = other.node? := by
  funext place
  rw [FileTree.node?, FileTree.node?, OrderedMap.get?_of_perm h.entries]

theorem Reordered.refusal? (h : Reordered tree other) : tree.refusal? = other.refusal? := by
  funext place access
  rw [FileTree.refusal?, FileTree.refusal?, OrderedMap.get?_of_perm h.refusals]

theorem Reordered.walk (h : Reordered tree other) (pieces : List Text) (place : Place) :
    tree.walk place pieces = other.walk place pieces := by
  induction pieces generalizing place with
  | nil => rfl
  | cons piece rest ih => simp only [FileTree.walk, h.node?, ih]

theorem Reordered.resolve (h : Reordered tree other) : tree.resolve = other.resolve := by
  funext working path
  simp only [FileTree.resolve, h.walk]

theorem Reordered.find? (h : Reordered tree other) : tree.find? = other.find? := by
  funext working path
  rw [FileTree.find?, FileTree.find?, h.resolve, h.node?]

theorem Reordered.exists? (h : Reordered tree other) : tree.exists? = other.exists? := by
  funext working path
  rw [FileTree.exists?, FileTree.exists?, h.find?]

theorem Reordered.isDirectory (h : Reordered tree other) :
    tree.isDirectory = other.isDirectory := by
  funext working path
  rw [FileTree.isDirectory, FileTree.isDirectory, h.find?]

theorem Reordered.isFile (h : Reordered tree other) : tree.isFile = other.isFile := by
  funext working path
  rw [FileTree.isFile, FileTree.isFile, h.find?]

theorem Reordered.listingFault? (h : Reordered tree other) :
    tree.listingFault? = other.listingFault? := by
  funext working path
  rw [FileTree.listingFault?, FileTree.listingFault?, h.resolve, h.node?, h.refusal?]

end FileTree

namespace Glob

variable {tree other : FileTree}

/-- The ways below a directory come in the order of a walk, whatever the order of the entries. -/
theorem below_reordered (h : tree.Reordered other) : below tree = below other := by
  funext working path
  rw [below, below, h.resolve]
  split
  · rfl
  · exact mergeSort_isWalkedBy ((h.entries.map Prod.fst).filterMap _)

theorem step_reordered (h : tree.Reordered other) :
    follow.step tree = follow.step other := by
  funext working pattern path
  rw [follow.step, follow.step, h.isDirectory, h.exists?, below_reordered h]

theorem follow_reordered (h : tree.Reordered other) (working : Place) (patterns : List Pattern) :
    follow tree working patterns = follow other working patterns := by
  induction patterns using List.twoStepInduction with
  | nil => rfl
  | singleton pattern =>
      funext path
      rw [follow, follow, below_reordered h, h.isDirectory, step_reordered h]
  | cons_cons pattern next rest ih ihnext =>
      funext path
      rw [follow, follow, below_reordered h, step_reordered h, ih, ihnext next]

theorem refusal?_reordered (h : tree.Reordered other) : refusal? tree = refusal? other := by
  funext working path
  rw [refusal?, refusal?, h.listingFault?]

theorem refused?_reordered (h : tree.Reordered other) (working : Place) (patterns : List Pattern) :
    refused? tree working patterns = refused? other working patterns := by
  have hnames : refused?.ofNames tree working = refused?.ofNames other working := by
    funext pattern path
    rw [refused?.ofNames, refused?.ofNames, refusal?_reordered h]
  induction patterns using List.twoStepInduction with
  | nil => rfl
  | singleton pattern =>
      funext path
      rw [refused?, refused?, below_reordered h, refusal?_reordered h, hnames]
  | cons_cons pattern next rest ih ihnext =>
      funext path
      rw [refused?, refused?, below_reordered h, step_reordered h, refusal?_reordered h, hnames, ih,
        ihnext next]

theorem search_reordered (h : tree.Reordered other) : search tree = search other := by
  funext working pattern
  simp only [search, follow_reordered h, refused?_reordered h, h.isDirectory]

end Glob

/-- Discovery does not depend on the order of the entries. -/
theorem Assets.discover_reordered {tree other : FileTree} (h : tree.Reordered other) :
    discover tree = discover other := by
  funext working assets pattern
  rw [discover, discover, Glob.search_reordered h, h.isFile]

end SchemaCompiler
