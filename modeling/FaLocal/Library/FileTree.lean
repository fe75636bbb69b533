import Mathlib.Data.List.Induction
import Mathlib.Tactic.Common

/-!
# File trees with symbolic links

A place in a tree is the list of names that leads to it from the root. A written path is
walked step by step; a link on the way is replaced by its target. What the walk finds is a
relation, which does not count links, and a function, which follows a limited number of them.
-/
namespace FileTree

/-- One step of a path. -/
inductive Step (Name : Type) where
  | current : Step Name
  | parent : Step Name
  | name : Name → Step Name
  deriving DecidableEq

/-- A path as it is written. -/
structure Route (Name : Type) where
  absolute : Bool
  steps : List (Step Name)
  deriving DecidableEq

inductive Node (Name Content : Type) where
  | directory : Node Name Content
  | file : Content → Node Name Content
  | link : Route Name → Node Name Content

/-- What stands somewhere stands in a directory. -/
@[ext]
structure Tree (Name Content : Type) where
  node : List Name → Option (Node Name Content)
  node_root : node [] = some .directory
  node_parent : ∀ {place : List Name} {n : Name} {x : Node Name Content},
    node (place ++ [n]) = some x → node place = some .directory

inductive Refusal where
  | noEntry | notADirectory | tooManyLinks
  deriving DecidableEq

variable {Name Content : Type}

def Step.moves : Step Name → Bool
  | .current => false
  | _ => true

def Node.isLink : Node Name Content → Bool
  | .link _ => true
  | _ => false

/-- A node without what a file holds. -/
def Node.shape : Node Name Content → Node Name Unit
  | .directory => .directory
  | .file _ => .file ()
  | .link target => .link target

/-- Where a route starts that is written at a place. -/
def Route.start (route : Route Name) (here : List Name) : List Name :=
  if route.absolute then [] else here

/-! ## Walking -/

/-- A walk ends at a place or at a link, with the steps behind the link. -/
inductive Halt (Name : Type) where
  | place (here : List Name)
  | link (here : List Name) (target : Route Name) (rest : List (Step Name))

namespace Tree

variable (tree : Tree Name Content)

/-- The steps up to the first link. -/
def walk (here : List Name) : List (Step Name) → Except Refusal (Halt Name)
  | [] => .ok (.place here)
  | step :: rest =>
    match tree.node here with
    | some .directory =>
      match step with
      | .current => walk here rest
      | .parent => walk here.dropLast rest
      | .name n =>
        match tree.node (here ++ [n]) with
        | none => .error .noEntry
        | some (.link target) => .ok (.link here target rest)
        | some _ => walk (here ++ [n]) rest
    | _ => .error .notADirectory

/-- The place to which the steps lead, over at most so many links. -/
def resolve (links : Nat) (here : List Name) (steps : List (Step Name)) :
    Except Refusal (List Name) :=
  match tree.walk here steps with
  | .error refusal => .error refusal
  | .ok (.place place) => .ok place
  | .ok (.link directory target rest) =>
    match links with
    | 0 => .error .tooManyLinks
    | links + 1 => resolve links (target.start directory) (target.steps ++ rest)

/-- The place of the last step, which is not followed if it is a link. -/
def locate (links : Nat) (here : List Name) (steps : List (Step Name)) :
    Except Refusal (List Name) :=
  match steps.getLast? with
  | some (.name n) =>
    match tree.resolve links here steps.dropLast with
    | .error refusal => .error refusal
    | .ok directory =>
      match tree.node directory with
      | some .directory =>
        if (tree.node (directory ++ [n])).isSome then .ok (directory ++ [n]) else .error .noEntry
      | _ => .error .notADirectory
  | _ => tree.resolve links here steps

/-! ## Where steps lead -/

/-- The steps lead from one place to another. The last list holds the places to which the links
among them lead. -/
inductive Leads : List Name → List (Step Name) → List Name → List (List Name) → Prop where
  | done (here : List Name) : Leads here [] here []
  | current {here place : List Name} {rest : List (Step Name)} {crossed : List (List Name)}
      (directory : tree.node here = some .directory) (leads : Leads here rest place crossed) :
      Leads here (.current :: rest) place crossed
  | parent {here place : List Name} {rest : List (Step Name)} {crossed : List (List Name)}
      (directory : tree.node here = some .directory)
      (leads : Leads here.dropLast rest place crossed) :
      Leads here (.parent :: rest) place crossed
  | name {here place : List Name} {n : Name} {x : Node Name Content} {rest : List (Step Name)}
      {crossed : List (List Name)} (node : tree.node (here ++ [n]) = some x)
      (noLink : x.isLink = false) (leads : Leads (here ++ [n]) rest place crossed) :
      Leads here (.name n :: rest) place crossed
  | link {here mid place : List Name} {n : Name} {target : Route Name} {rest : List (Step Name)}
      {inner crossed : List (List Name)} (node : tree.node (here ++ [n]) = some (.link target))
      (follows : Leads (target.start here) target.steps mid inner)
      (leads : Leads mid rest place crossed) :
      Leads here (.name n :: rest) place (mid :: crossed)

variable {tree} {here mid place place' : List Name} {steps rest : List (Step Name)}
  {crossed crossed' : List (List Name)} {links : Nat}

/-- Steps lead to one place. -/
theorem Leads.unique (h : tree.Leads here steps place crossed)
    (h' : tree.Leads here steps place' crossed') : place = place' ∧ crossed = crossed' := by
  induction h generalizing place' crossed' with
  | done =>
    cases h'
    exact ⟨rfl, rfl⟩
  | current _ _ ih =>
    cases h' with
    | current _ h' => exact ih h'
  | parent _ _ ih =>
    cases h' with
    | parent _ h' => exact ih h'
  | name hnode hlink _ ih =>
    cases h' with
    | name _ _ h' => exact ih h'
    | link hnode' _ _ =>
      rw [hnode] at hnode'
      cases hnode'
      cases hlink
  | link hnode _ _ ihtarget ih =>
    cases h' with
    | name hnode' hlink' _ =>
      rw [hnode] at hnode'
      cases hnode'
      cases hlink'
    | link hnode' htarget' h' =>
      rw [hnode] at hnode'
      cases hnode'
      obtain ⟨rfl, -⟩ := ihtarget htarget'
      obtain ⟨rfl, rfl⟩ := ih h'
      exact ⟨rfl, rfl⟩

theorem Leads.append (h : tree.Leads here steps mid crossed)
    (h' : tree.Leads mid rest place crossed') :
    tree.Leads here (steps ++ rest) place (crossed ++ crossed') := by
  induction h with
  | done => exact h'
  | current hdirectory _ ih => exact .current hdirectory (ih h')
  | parent hdirectory _ ih => exact .parent hdirectory (ih h')
  | name hnode hlink _ ih => exact .name hnode hlink (ih h')
  | link hnode htarget _ _ ih => exact .link hnode htarget (ih h')

theorem Leads.split (h : tree.Leads here (steps ++ rest) place crossed) :
    ∃ mid front back, tree.Leads here steps mid front ∧ tree.Leads mid rest place back ∧
      crossed = front ++ back := by
  induction steps generalizing here crossed with
  | nil => exact ⟨here, [], crossed, .done here, h, rfl⟩
  | cons step steps ih =>
    cases h with
    | current hdirectory h =>
      obtain ⟨mid, front, back, hfront, hback, rfl⟩ := ih h
      exact ⟨mid, front, back, .current hdirectory hfront, hback, rfl⟩
    | parent hdirectory h =>
      obtain ⟨mid, front, back, hfront, hback, rfl⟩ := ih h
      exact ⟨mid, front, back, .parent hdirectory hfront, hback, rfl⟩
    | name hnode hlink h =>
      obtain ⟨mid, front, back, hfront, hback, rfl⟩ := ih h
      exact ⟨mid, front, back, .name hnode hlink hfront, hback, rfl⟩
    | @link _ target _ _ _ _ _ _ hnode htarget h =>
      obtain ⟨mid, front, back, hfront, hback, rfl⟩ := ih h
      exact ⟨mid, _ :: front, back, .link hnode htarget hfront, hback, rfl⟩

/-! ## What a walk finds -/

theorem walk_place (h : tree.walk here steps = .ok (.place place)) :
    tree.Leads here steps place [] := by
  induction steps generalizing here with
  | nil =>
    cases h
    exact .done _
  | cons step rest ih =>
    simp only [walk] at h
    split at h
    · rename_i hdirectory
      cases step with
      | current => exact .current hdirectory (ih h)
      | parent => exact .parent hdirectory (ih h)
      | name n =>
        dsimp only at h
        split at h
        · cases h
        · cases h
        · rename_i x hlink hnode
          refine .name hnode ?_ (ih h)
          cases x with
          | link target => exact absurd rfl (hlink target)
          | _ => rfl
    · cases h

theorem walk_link {directory : List Name} {target : Route Name}
    (h : tree.walk here steps = .ok (.link directory target rest)) :
    ∃ front n, steps = front ++ .name n :: rest ∧ tree.Leads here front directory [] ∧
      tree.node (directory ++ [n]) = some (.link target) := by
  induction steps generalizing here with
  | nil => cases h
  | cons step steps ih =>
    simp only [walk] at h
    split at h
    · rename_i hdirectory
      cases step with
      | current =>
        obtain ⟨front, n, rfl, hfront, hlink⟩ := ih h
        exact ⟨.current :: front, n, rfl, .current hdirectory hfront, hlink⟩
      | parent =>
        obtain ⟨front, n, rfl, hfront, hlink⟩ := ih h
        exact ⟨.parent :: front, n, rfl, .parent hdirectory hfront, hlink⟩
      | name n =>
        dsimp only at h
        split at h
        · cases h
        · rename_i hnode
          cases h
          exact ⟨[], n, rfl, .done _, hnode⟩
        · rename_i x hlink hnode
          obtain ⟨front, m, rfl, hfront, htarget⟩ := ih h
          refine ⟨.name n :: front, m, rfl, .name hnode ?_ hfront, htarget⟩
          cases x with
          | link target => exact absurd rfl (hlink target)
          | _ => rfl
    · cases h

/-- A link on the way is replaced by its target. -/
theorem Leads.spliced {directory : List Name} {n : Name} {target : Route Name}
    {front : List (Step Name)} (hfront : tree.Leads here front directory [])
    (hlink : tree.node (directory ++ [n]) = some (.link target))
    (h : tree.Leads (target.start directory) (target.steps ++ rest) place crossed) :
    ∃ crossed', tree.Leads here (front ++ .name n :: rest) place crossed' := by
  obtain ⟨mid, inner, back, htarget, hback, -⟩ := h.split
  exact ⟨_, hfront.append (.link hlink htarget hback)⟩

theorem resolve_leads (h : tree.resolve links here steps = .ok place) :
    ∃ crossed, tree.Leads here steps place crossed := by
  induction links generalizing here steps with
  | zero =>
    rw [resolve] at h
    split at h
    · cases h
    · rename_i hwalk
      cases h
      exact ⟨[], walk_place hwalk⟩
    · cases h
  | succ links ih =>
    rw [resolve] at h
    split at h
    · cases h
    · rename_i hwalk
      cases h
      exact ⟨[], walk_place hwalk⟩
    · rename_i hwalk
      obtain ⟨front, n, rfl, hfront, hlink⟩ := walk_link hwalk
      obtain ⟨crossed, hrest⟩ := ih h
      exact hfront.spliced hlink hrest

/-- The last step is found in the directory to which the steps before it lead. -/
theorem locate_name {n : Name} (h : tree.locate links here (steps ++ [.name n]) = .ok place) :
    ∃ directory crossed, tree.Leads here steps directory crossed ∧ place = directory ++ [n] := by
  rw [locate, List.getLast?_concat, List.dropLast_concat] at h
  dsimp only at h
  split at h
  · cases h
  · rename_i directory hresolve
    split at h
    · split at h
      · cases h
        obtain ⟨crossed, hleads⟩ := resolve_leads hresolve
        exact ⟨directory, crossed, hleads, rfl⟩
      · cases h
    · cases h

/-! ## Places -/

theorem node_above {n : Name} {names : List Name} {x : Node Name Content}
    (h : tree.node (place ++ n :: names) = some x) : tree.node place = some .directory := by
  induction names using List.reverseRecOn generalizing x with
  | nil => exact tree.node_parent h
  | append_singleton names m ih =>
    have hparent : tree.node (place ++ n :: names) = some .directory := by
      apply tree.node_parent (n := m) (x := x)
      simpa using h
    exact ih hparent

/-- A place that is no link is reached by its names. -/
theorem leads_names {names : List Name} {x : Node Name Content}
    (h : tree.node (here ++ names) = some x) (hx : x.isLink = false) :
    tree.Leads here (names.map .name) (here ++ names) [] := by
  induction names generalizing here with
  | nil =>
    rw [List.append_nil]
    exact .done here
  | cons n names ih =>
    have hsplit : here ++ n :: names = (here ++ [n]) ++ names := by simp
    rw [hsplit] at h ⊢
    cases names with
    | nil =>
      rw [List.append_nil] at h
      exact .name h hx (ih (by simpa using h))
    | cons m names => exact .name (node_above h) rfl (ih h)

theorem node_dropLast (h : tree.node place = some .directory) :
    tree.node place.dropLast = some .directory := by
  induction place using List.reverseRecOn with
  | nil => exact h
  | append_singleton place n =>
    rw [List.dropLast_concat]
    exact tree.node_parent h

/-- What stands here is no link. -/
def Stands (tree : Tree Name Content) (place : List Name) : Prop :=
  ∃ x, tree.node place = some x ∧ x.isLink = false

theorem stands_of_directory (h : tree.node place = some .directory) : tree.Stands place :=
  ⟨_, h, rfl⟩

theorem start_directory (target : Route Name) (h : tree.node here = some .directory) :
    tree.node (target.start here) = some .directory := by
  rw [Route.start]
  split
  · exact tree.node_root
  · exact h

theorem Leads.stands (h : tree.Leads here steps place crossed) (hhere : tree.Stands here) :
    tree.Stands place := by
  induction h with
  | done => exact hhere
  | current _ _ ih => exact ih hhere
  | parent hdirectory _ ih => exact ih (stands_of_directory (node_dropLast hdirectory))
  | name hnode hlink _ ih => exact ih ⟨_, hnode, hlink⟩
  | @link here _ _ _ target _ _ _ hnode _ _ ihtarget ih =>
    have hdirectory := start_directory target (tree.node_parent hnode)
    exact ih (ihtarget (stands_of_directory hdirectory))

/-- Steps that stand still can be left out. -/
theorem Leads.moving (h : tree.Leads here steps place crossed) :
    tree.Leads here (steps.filter Step.moves) place crossed := by
  induction h with
  | done here => exact .done here
  | current _ _ ih => exact ih
  | parent hdirectory _ ih => exact .parent hdirectory ih
  | name hnode hlink _ ih => exact .name hnode hlink ih
  | link hnode htarget _ _ ih => exact .link hnode htarget ih

/-- Behind the last link the names stand as they are written. -/
theorem Leads.last {names : List Name} (h : tree.Leads here (names.map .name) place crossed) :
    ∃ front back, names = front ++ back ∧ place = crossed.getLast?.getD here ++ back ∧
      (crossed = [] → front = []) := by
  induction names generalizing here crossed with
  | nil =>
    cases h
    exact ⟨[], [], rfl, by simp, fun _ => rfl⟩
  | cons n names ih =>
    cases h with
    | name _ _ h =>
      obtain ⟨front, back, rfl, rfl, hnone⟩ := ih h
      cases crossed with
      | nil =>
        obtain rfl := hnone rfl
        exact ⟨[], n :: back, rfl, by simp, fun _ => rfl⟩
      | cons d crossed =>
        exact ⟨n :: front, back, rfl, by simp [List.getLast?_cons], by rintro ⟨⟩⟩
    | link _ _ h =>
      obtain ⟨front, back, rfl, rfl, -⟩ := ih h
      exact ⟨n :: front, back, rfl, by simp [List.getLast?_cons], by rintro ⟨⟩⟩

/-- Names that cross no link lead straight down. -/
theorem Leads.unlinked {names : List Name} (h : tree.Leads here (names.map .name) place []) :
    place = here ++ names := by
  obtain ⟨front, back, rfl, rfl, hfront⟩ := h.last
  obtain rfl := hfront rfl
  rfl

/-- The place of the last step is where all steps lead, when no link stands there. -/
theorem locate_leads (h : tree.locate links here steps = .ok place) (hplace : tree.Stands place) :
    ∃ crossed, tree.Leads here steps place crossed := by
  cases hlast : steps.getLast? with
  | none =>
    rw [locate, hlast] at h
    exact resolve_leads h
  | some step =>
    cases step with
    | name n =>
      obtain ⟨front, rfl⟩ := List.getLast?_eq_some_iff.mp hlast
      obtain ⟨directory, crossed, hleads, rfl⟩ := locate_name h
      obtain ⟨x, hnode, hlink⟩ := hplace
      exact ⟨_, hleads.append (.name hnode hlink (.done _))⟩
    | current =>
      rw [locate, hlast] at h
      exact resolve_leads h
    | parent =>
      rw [locate, hlast] at h
      exact resolve_leads h

/-- A last step that stands still ends in a directory. -/
theorem Leads.ends_current (h : tree.Leads here (steps ++ [.current]) place crossed) :
    tree.node place = some .directory := by
  obtain ⟨mid, front, back, -, hback, -⟩ := h.split
  cases hback with
  | current hdirectory hdone =>
    cases hdone
    exact hdirectory

/-! ## Shapes -/

/-- A tree without what its files hold. -/
def shape (tree : Tree Name Content) : Tree Name Unit where
  node := fun place => (tree.node place).map Node.shape
  node_root := by
    rw [tree.node_root]
    rfl
  node_parent := by
    intro place n x hnode
    obtain ⟨y, hy, -⟩ := Option.map_eq_some_iff.mp hnode
    rw [tree.node_parent hy]
    rfl

variable (tree)

/-- Where a walk ends does not depend on what the files hold. -/
theorem walk_shape : tree.shape.walk here steps = tree.walk here steps := by
  induction steps generalizing here with
  | nil => rfl
  | cons step rest ih =>
    have hhere : tree.shape.node here = (tree.node here).map Node.shape := rfl
    simp only [walk, hhere]
    rcases tree.node here with _ | ⟨_ | content | target⟩
    · rfl
    · cases step with
      | current => exact ih
      | parent => exact ih
      | name n =>
        have hnode : tree.shape.node (here ++ [n]) = (tree.node (here ++ [n])).map Node.shape := rfl
        simp only [hnode, Option.map_some, Node.shape]
        rcases tree.node (here ++ [n]) with _ | ⟨_ | content | target⟩
        · rfl
        · exact ih
        · exact ih
        · rfl
    · rfl
    · rfl

theorem resolve_shape : tree.shape.resolve links here steps = tree.resolve links here steps := by
  induction links generalizing here steps with
  | zero => rw [resolve, resolve, walk_shape]
  | succ links ih =>
    rw [resolve, resolve, walk_shape]
    rcases tree.walk here steps with refusal | ⟨place⟩ | ⟨directory, target, rest⟩
    · rfl
    · rfl
    · exact ih

theorem locate_shape : tree.shape.locate links here steps = tree.locate links here steps := by
  have hnode : ∀ place, tree.shape.node place = (tree.node place).map Node.shape := fun _ => rfl
  simp only [locate, resolve_shape]
  split
  · split
    · rfl
    · rename_i directory _
      simp only [hnode, Option.isSome_map]
      rcases tree.node directory with _ | ⟨_ | content | target⟩ <;> rfl
  · rfl

variable {tree}

/-! ## Finite trees -/

def isDirectory : Option (Node Name Content) → Bool
  | some .directory => true
  | _ => false

theorem isDirectory_iff {node : Option (Node Name Content)} :
    isDirectory node = true ↔ node = some .directory := by
  cases node with
  | none => simp [isDirectory]
  | some x => cases x <;> simp [isDirectory]

/-- What a list of entries says about a place. -/
def listed [DecidableEq Name] (entries : List (List Name × Node Name Content))
    (place : List Name) : Option (Node Name Content) :=
  if place = [] then some .directory else entries.lookup place

/-- An entry says nothing about other places. -/
theorem listed_of_ne [DecidableEq Name] (front back : List (List Name × Node Name Content))
    {other : List Name} {x x' : Node Name Content} (h : place ≠ other) :
    listed (front ++ (other, x) :: back) place = listed (front ++ (other, x') :: back) place := by
  simp only [listed, List.lookup_append, List.lookup_cons, beq_eq_false_iff_ne.mpr h]

/-- The tree of a list of entries, all of which stand in directories of the list. -/
def ofList [DecidableEq Name] (entries : List (List Name × Node Name Content))
    (h : (entries.all fun entry => isDirectory (listed entries entry.1.dropLast)) = true) :
    Tree Name Content where
  node := listed entries
  node_root := rfl
  node_parent := by
    intro place n x hnode
    rw [listed, if_neg (by simp)] at hnode
    obtain ⟨before, after, hsplit, -⟩ := List.lookup_eq_some_iff.mp hnode
    have hmem : (place ++ [n], x) ∈ entries := by simp [hsplit]
    have hparent := List.all_eq_true.mp h _ hmem
    rwa [List.dropLast_concat, isDirectory_iff] at hparent

end Tree

end FileTree
