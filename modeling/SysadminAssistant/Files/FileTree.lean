import SysadminAssistant.Python.Bytes
import SysadminAssistant.Python.Dict

namespace SysadminAssistant.Files

open Python

/-! The directory tree, and where a path leads in it.  Paths are absolute, their names innermost
first, so that the parent of a path is its tail. -/

abbrev Path := List Text

def path (names : List String) : Path := names.reverse.map text

inductive Node where
  | directory
  | file (content : Bytes) (modified : ℚ)
  | link (absolute : Bool) (target : List Text)
  | other
deriving DecidableEq

/-- Every entry there is, at the place of its name under real directories. -/
abbrev Tree := Dict Path Node

def parent : Text := text ".."

/-- The names of a path, followed one at a time; `none` when the links do not come to an end in
so many steps. -/
def follow (tree : Tree) : Nat → Path → List Text → Option Path
  | _, place, [] => some place
  | 0, _, _ :: _ => none
  | steps + 1, place, name :: rest =>
    if name = parent then follow tree steps place.tail rest
    else match tree.get? (name :: place) with
      | some (.link absolute target) =>
        follow tree steps (if absolute then [] else place) (target ++ rest)
      | _ => follow tree steps (name :: place) rest

def realPath (steps : Nat) (tree : Tree) (path : Path) : Option Path :=
  follow tree steps [] path.reverse

/-- Where the entry of a path stands: its last name is not followed. -/
def entryOf (steps : Nat) (tree : Tree) : Path → Option Path
  | [] => some []
  | name :: directory => (realPath steps tree directory).map fun place =>
    if name = parent then place.tail else name :: place

/-- `os.stat` of an entry; the root is no link. -/
def statAt (steps : Nat) (tree : Tree) : Path → Option Node
  | [] => tree.get? []
  | name :: directory => match tree.get? (name :: directory) with
      | some (.link absolute target) =>
        (follow tree steps (if absolute then [] else directory) target).bind tree.get?
      | node => node

/-- `Path.exists` of an entry. -/
def existsAt (steps : Nat) (tree : Tree) (place : Path) : Bool := (statAt steps tree place).isSome

def isDir (steps : Nat) (tree : Tree) (path : Path) : Bool :=
  (realPath steps tree path).any fun place => tree.get? place = some .directory

def Node.isLink : Node → Bool
  | .link _ _ => true
  | _ => false

def Node.isFile : Node → Bool
  | .file _ _ => true
  | _ => false

def isSymlink (steps : Nat) (tree : Tree) (path : Path) : Bool :=
  ((entryOf steps tree path).bind tree.get?).any Node.isLink

/-- Two trees with the same links in them. -/
def SameLinks (before after : Tree) : Prop :=
  ∀ place node, node.isLink = true → (before.get? place = some node ↔ after.get? place = some node)

theorem SameLinks.symm {before after : Tree} (same : SameLinks before after) :
    SameLinks after before :=
  fun place node linked => (same place node linked).symm

theorem SameLinks.trans {first second third : Tree} (left : SameLinks first second)
    (right : SameLinks second third) : SameLinks first third :=
  fun place node linked => (left place node linked).trans (right place node linked)

theorem follow_sameLinks {before after : Tree} (same : SameLinks before after) (steps : Nat)
    (place : Path) (names : List Text) :
    follow before steps place names = follow after steps place names := by
  induction steps generalizing place names with
  | zero => cases names <;> rfl
  | succ steps ih =>
    cases names with
    | nil => rfl
    | cons name rest =>
      simp only [follow, ih]
      split
      · rfl
      · by_cases linked : ∃ absolute target, before.get? (name :: place) = some (.link absolute target)
        · obtain ⟨absolute, target, found⟩ := linked
          rw [found, (same (name :: place) (.link absolute target) rfl).mp found]
        · split
          · rename_i absolute target found
            exact absurd ⟨absolute, target, found⟩ linked
          · split
            · rename_i absolute target found
              exact absurd ⟨absolute, target, (same _ _ rfl).mpr found⟩ linked
            · rfl

theorem realPath_sameLinks {before after : Tree} (same : SameLinks before after) (steps : Nat)
    (path : Path) :
    realPath steps before path = realPath steps after path :=
  follow_sameLinks same steps [] path.reverse

theorem entryOf_sameLinks {before after : Tree} (same : SameLinks before after) (steps : Nat)
    (path : Path) : entryOf steps before path = entryOf steps after path := by
  cases path with
  | nil => rfl
  | cons name directory => simp only [entryOf, realPath_sameLinks same]

/-- No link stands on the way to `place`, and no name of it leads up. -/
def Real (tree : Tree) (place : Path) : Prop :=
  ∀ name directory, (name :: directory) <:+ place → name ≠ parent ∧
    ∀ node, tree.get? (name :: directory) = some node → node.isLink = false

theorem Real.nil (tree : Tree) : Real tree [] := by
  intro name directory inside
  simp at inside

theorem Real.tail {tree : Tree} {place : Path} (real : Real tree place) : Real tree place.tail :=
  fun name directory inside => real name directory (inside.trans (List.tail_suffix place))

theorem Real.cons {tree : Tree} {name : Text} {place : Path} (real : Real tree place)
    (down : name ≠ parent) (plain : ∀ node, tree.get? (name :: place) = some node →
      node.isLink = false) :
    Real tree (name :: place) := by
  intro other directory inside
  rcases List.suffix_cons_iff.mp inside with same | later
  · cases same
    exact ⟨down, plain⟩
  · exact real other directory later

theorem Real.sameLinks {before after : Tree} {place : Path} (real : Real before place)
    (same : SameLinks before after) : Real after place := by
  intro name directory inside
  obtain ⟨down, plain⟩ := real name directory inside
  refine ⟨down, fun node found => ?_⟩
  by_contra linked
  rw [Bool.not_eq_false] at linked
  rw [plain node ((same _ node linked).mpr found)] at linked
  contradiction

/-- What `realpath` gives is real, and not longer than its steps. -/
theorem follow_real {tree : Tree} {steps : Nat} {place found : Path} {names : List Text}
    (real : Real tree place) (led : follow tree steps place names = some found) :
    Real tree found ∧ found.length ≤ place.length + steps := by
  induction steps generalizing place names with
  | zero =>
    cases names with
    | nil =>
      cases led
      exact ⟨real, by omega⟩
    | cons name rest => simp [follow] at led
  | succ steps ih =>
    cases names with
    | nil =>
      cases led
      exact ⟨real, by omega⟩
    | cons name rest =>
      have up : place.tail.length ≤ place.length := by simp
      simp only [follow] at led
      split at led
      · obtain ⟨still, short⟩ := ih real.tail led
        exact ⟨still, by omega⟩
      · rename_i down
        split at led
        · rename_i absolute target linked
          cases absolute with
          | true =>
            obtain ⟨still, short⟩ := ih (Real.nil tree) led
            exact ⟨still, by rw [List.length_nil] at short; omega⟩
          | false =>
            obtain ⟨still, short⟩ := ih real led
            exact ⟨still, by omega⟩
        · rename_i plain
          have next : Real tree (name :: place) := by
            refine real.cons down fun node present => ?_
            cases node with
            | link absolute target => exact absurd present (plain absolute target)
            | _ => rfl
          obtain ⟨still, short⟩ := ih next led
          rw [List.length_cons] at short
          exact ⟨still, by omega⟩

theorem realPath_real {tree : Tree} {steps : Nat} {path place : Path}
    (led : realPath steps tree path = some place) : Real tree place ∧ place.length ≤ steps := by
  obtain ⟨real, short⟩ := follow_real (Real.nil tree) led
  exact ⟨real, by simpa using short⟩

theorem follow_of_real {tree : Tree} {steps : Nat} (names : List Text) {place : Path}
    (real : Real tree (names.reverse ++ place)) (enough : names.length ≤ steps) :
    follow tree steps place names = some (names.reverse ++ place) := by
  induction names generalizing steps place with
  | nil => cases steps <;> rfl
  | cons name rest ih =>
    cases steps with
    | zero => simp at enough
    | succ steps =>
      have shape : (name :: rest).reverse ++ place = rest.reverse ++ name :: place := by simp
      rw [shape] at real ⊢
      obtain ⟨down, plain⟩ := real name place (List.suffix_append _ _)
      simp only [follow, if_neg down]
      have later := ih real (by simpa using enough)
      cases found : tree.get? (name :: place) with
      | none => exact later
      | some node =>
        have straight := plain node found
        cases node with
        | link absolute target => simp [Node.isLink] at straight
        | _ => exact later

theorem realPath_of_real {tree : Tree} {steps : Nat} {place : Path} (real : Real tree place)
    (enough : place.length ≤ steps) : realPath steps tree place = some place := by
  have led := @follow_of_real tree steps place.reverse [] (by simpa using real) (by simpa using enough)
  simpa [realPath] using led

theorem entryOf_of_real {tree : Tree} {steps : Nat} {place : Path} (real : Real tree place)
    (enough : place.length ≤ steps) : entryOf steps tree place = some place := by
  cases place with
  | nil => rfl
  | cons name directory =>
    have down := (real name directory (List.suffix_refl _)).1
    have led :=
      @realPath_of_real tree steps directory real.tail (by rw [List.length_cons] at enough; omega)
    simp [entryOf, led, down]

/-- What is at a real place is what `stat` finds there. -/
theorem statAt_of_real {tree : Tree} {steps : Nat} {place : Path} (real : Real tree place) :
    statAt steps tree place = tree.get? place := by
  cases place with
  | nil => rfl
  | cons name directory =>
    have plain := (real name directory (List.suffix_refl _)).2
    cases found : tree.get? (name :: directory) with
    | none => simp [statAt, found]
    | some node =>
      have straight := plain node found
      cases node with
      | link absolute target => simp [Node.isLink] at straight
      | _ => simp [statAt, found]

theorem SameLinks.refl (tree : Tree) : SameLinks tree tree := fun _ _ _ => Iff.rfl

theorem SameLinks.of_change {before after : Tree}
    (change : ∀ place, before.get? place = after.get? place ∨
      ((∀ node, before.get? place = some node → node.isLink = false) ∧
        ∀ node, after.get? place = some node → node.isLink = false)) : SameLinks before after := by
  intro place node linked
  rcases change place with same | ⟨former, latter⟩
  · rw [same]
  · constructor
    · intro found
      rw [former node found] at linked
      contradiction
    · intro found
      rw [latter node found] at linked
      contradiction

end SysadminAssistant.Files
