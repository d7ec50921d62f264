import ClassLocator.ClassPath.Matches
import ClassLocator.Runtime.Image

/-!
# Searching

A search hands over the matches of the runtime first, then those of the class path, element by
element. Whoever takes them may stop the search at any match, or fail.

## Main definitions

* `Listener`: whoever takes notices and matches.
* `Feed.deliver`: hands over the events of one feed.
* `search`: hands over all events until it is stopped.
-/

namespace ClassLocator

/-- A computation on a state that may end in a fault; the state stays as it was left. -/
abbrev Action (σ α : Type) := ExceptT Fault (StateM σ) α

/-- What an action gives, and the state in which it leaves things. -/
def Action.runFrom {σ α : Type} (state : σ) (action : Action σ α) : Except Fault α × σ :=
  action.run.run state

namespace Action

variable {σ α β : Type} (state : σ)

@[simp] theorem runFrom_pure (value : α) :
    (pure value : Action σ α).runFrom state = (.ok value, state) := rfl

@[simp] theorem runFrom_throw (fault : Fault) :
    (throw fault : Action σ α).runFrom state = (.error fault, state) := rfl

@[simp] theorem runFrom_modify (change : σ → σ) :
    (modify change : Action σ PUnit).runFrom state = (.ok ⟨⟩, change state) := rfl

theorem runFrom_bind_ok {action : Action σ α} {value : α} {after : σ}
    (h : action.runFrom state = (.ok value, after)) (next : α → Action σ β) :
    (action >>= next).runFrom state = (next value).runFrom after := by
  simp only [runFrom, ExceptT.run_bind, StateT.run_bind] at h ⊢
  rw [h]
  rfl

theorem runFrom_bind_error {action : Action σ α} {fault : Fault} {after : σ}
    (h : action.runFrom state = (.error fault, after)) (next : α → Action σ β) :
    (action >>= next).runFrom state = (.error fault, after) := by
  simp only [runFrom, ExceptT.run_bind, StateT.run_bind] at h ⊢
  rw [h]
  rfl

end Action

structure Listener (σ : Type) where
  notice : Notice → σ → σ
  hit : Match → Action σ Flow

inductive Outcome where
  | completed
  | runtimeOnly
  | sourceFound
deriving DecidableEq, Repr

variable {σ : Type}

/-- Hands over events until one of them is answered by a stop. -/
def deliver (listener : Listener σ) : List Event → Action σ Flow
  | [] => return .continue
  | .notice notice :: rest => do
    modify (listener.notice notice)
    deliver listener rest
  | .hit found :: rest => do
    match ← listener.hit found with
    | .stop => return .stop
    | .continue => deliver listener rest

/-- A feed that is not stopped ends as it ends by itself. -/
def Feed.deliver (listener : Listener σ) (feed : Feed Fault Event) : Action σ Flow := do
  match ← ClassLocator.deliver listener feed.items with
  | .stop => return .stop
  | .continue =>
    match feed.failure with
    | some fault => throw fault
    | none => return .continue

/-- Searches one element after the other. -/
def searchElements (listener : Listener σ) (scan : Element → Feed Fault Event) :
    List Element → Action σ Outcome
  | [] => return .completed
  | element :: rest => do
    match ← (scan element).deliver listener with
    | .stop => return .sourceFound
    | .continue => searchElements listener scan rest

/-- The classes of the runtime come first; a search of the runtime only leaves it at them. -/
def search (listener : Listener σ) (fs : FileSystem) (query : Query) (display : Display)
    (runtime : Feed Fault Event) (elements : List Element) : Action σ Outcome := do
  match ← runtime.deliver listener with
  | .stop => return .sourceFound
  | .continue =>
    if display.runtimeOnly then return .runtimeOnly
    else searchElements listener (Element.scan fs query display) elements

end ClassLocator
