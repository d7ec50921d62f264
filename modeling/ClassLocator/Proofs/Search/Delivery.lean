import ClassLocator.Search

/-!
# Deliveries

A search hands its events to a listener one after the other, and a match that is answered by a
stop or by a fault is the last one. The elements of the class path are searched one by one, each
with a feed of its own; here all of them are put together to one stream of events, and the search
is shown to be one delivery of this stream.

## Main definitions

* `Delivers`: the events that a listener takes, the last answer, and the states in between.
* `eventStream`: the events of the runtime and of all elements.
* `Outcome.closing`: what a search ends in after the last answer.

## Main statements

* `search_delivers`: the listener gets the shortest beginning of the stream that it breaks off
  itself, or all of the stream.
-/

namespace ClassLocator

variable {σ : Type}

/-! ## Deliveries -/

/-- The listener takes the events one after the other. It goes on after each match but the last
one, whose answer is kept; if it goes on after all matches, the answer says so. -/
inductive Delivers (listener : Listener σ) : σ → List Event → Except Fault Flow → σ → Prop
  | nil (state : σ) : Delivers listener state [] (.ok .continue) state
  | notice {state after : σ} {notice : Notice} {rest : List Event} {answer : Except Fault Flow} :
      Delivers listener (listener.notice notice state) rest answer after →
      Delivers listener state (.notice notice :: rest) answer after
  | last {state after : σ} {found : Match} {answer : Except Fault Flow} :
      (listener.hit found).runFrom state = (answer, after) → answer ≠ .ok .continue →
      Delivers listener state [.hit found] answer after
  | next {state between after : σ} {found : Match} {rest : List Event}
      {answer : Except Fault Flow} :
      (listener.hit found).runFrom state = (.ok .continue, between) →
      Delivers listener between rest answer after →
      Delivers listener state (.hit found :: rest) answer after

theorem deliver_delivers (listener : Listener σ) (events : List Event) (state : σ) :
    ∃ taken answer after, taken <+: events ∧ Delivers listener state taken answer after ∧
      (answer = .ok .continue → taken = events) ∧
      (deliver listener events).runFrom state = (answer, after) := by
  induction events generalizing state with
  | nil => exact ⟨[], _, state, List.nil_prefix, .nil state, fun _ => rfl, rfl⟩
  | cons event rest ih =>
    cases event with
    | notice notice =>
      obtain ⟨taken, answer, after, hp, hd, hall, hrun⟩ := ih (listener.notice notice state)
      refine ⟨.notice notice :: taken, answer, after, (List.prefix_cons_inj _).2 hp, .notice hd,
        fun h => by rw [hall h], ?_⟩
      rw [deliver, Action.runFrom_bind_ok state (Action.runFrom_modify state _), hrun]
    | hit found =>
      have hsingle : [Event.hit found] <+: .hit found :: rest :=
        (List.prefix_cons_inj _).2 List.nil_prefix
      rcases hhit : (listener.hit found).runFrom state with ⟨_ | _ | _, between⟩
      case error fault =>
        refine ⟨_, .error fault, between, hsingle, .last hhit (by simp), by simp, ?_⟩
        rw [deliver, Action.runFrom_bind_error state hhit]
      case ok.stop =>
        refine ⟨_, .ok .stop, between, hsingle, .last hhit (by simp), by simp, ?_⟩
        rw [deliver, Action.runFrom_bind_ok state hhit]
        rfl
      case ok.continue =>
        obtain ⟨taken, answer, after, hp, hd, hall, hrun⟩ := ih between
        refine ⟨.hit found :: taken, answer, after, (List.prefix_cons_inj _).2 hp, .next hhit hd,
          fun h => by rw [hall h], ?_⟩
        rw [deliver, Action.runFrom_bind_ok state hhit]
        exact hrun

/-! ## One stream -/

/-- What is done after an answer is known from what is done after each of the two. -/
theorem bind_flow_congr {α : Type} {first : Action σ Flow} {next other : Flow → Action σ α}
    (hstop : next .stop = other .stop) (hcontinue : next .continue = other .continue) :
    (first >>= next) = (first >>= other) := by
  congr 1
  funext flow
  cases flow
  · exact hcontinue
  · exact hstop

theorem deliver_append (listener : Listener σ) (xs ys : List Event) :
    deliver listener (xs ++ ys) = (do
      match ← deliver listener xs with
      | .stop => return .stop
      | .continue => deliver listener ys) := by
  induction xs with
  | nil => simp [deliver]
  | cons event rest ih =>
    cases event with
    | notice notice => simp [deliver, ih]
    | hit found =>
      simp only [List.cons_append, deliver, ih, bind_assoc]
      exact bind_flow_congr (by simp) (by simp)

theorem Feed.deliver_followedBy (listener : Listener σ) (f g : Feed Fault Event) :
    (f.followedBy g).deliver listener = (do
      match ← f.deliver listener with
      | .stop => return .stop
      | .continue => g.deliver listener) := by
  obtain ⟨items, failure⟩ := f
  cases failure with
  | none =>
    simp only [Feed.followedBy, Feed.deliver, deliver_append, bind_assoc]
    exact bind_flow_congr (by simp) (by simp)
  | some fault =>
    simp only [Feed.followedBy, Feed.deliver, bind_assoc]
    exact bind_flow_congr (by simp) (by simp)

theorem searchElements_eq (listener : Listener σ) (scan : Element → Feed Fault Event)
    (elements : List Element) :
    searchElements listener scan elements = (do
      match ← (Feed.join (elements.map scan)).deliver listener with
      | .stop => return .sourceFound
      | .continue => return .completed) := by
  induction elements with
  | nil => simp [searchElements, Feed.deliver, Feed.empty, deliver]
  | cons element rest ih =>
    simp only [searchElements, List.map_cons, Feed.join_cons, Feed.deliver_followedBy, ih,
      bind_assoc]
    exact bind_flow_congr (by simp) (by simp)

section

variable (fs : FileSystem) (query : Query) (display : Display) (runtime : Feed Fault Event)
  (elements : List Element)

/-- The events of the runtime, then those of each element unless only the runtime is searched. A
feed that fails ends the stream. -/
def eventStream : Feed Fault Event :=
  runtime.followedBy
    (if display.runtimeOnly then .empty else .join (elements.map (Element.scan fs query display)))

/-- What a search ends in: `answer` is the last one that the listener gave, and `failure` is what
the stream ends in. -/
def Outcome.closing (display : Display) (failure : Option Fault) :
    Except Fault Flow → Except Fault Outcome
  | .error fault => .error fault
  | .ok .stop => .ok .sourceFound
  | .ok .continue =>
    match failure with
    | some fault => .error fault
    | none => .ok (if display.runtimeOnly then .runtimeOnly else .completed)

/-- Only a stop lets a search end with a source. -/
theorem closing_eq_sourceFound_iff {failure : Option Fault}
    {answer : Except Fault Flow} :
    Outcome.closing display failure answer = .ok .sourceFound ↔ answer = .ok .stop := by
  constructor
  · intro h
    rcases answer with fault | _ | _
    case error => cases h
    case ok.stop => rfl
    case ok.continue =>
      cases failure with
      | some fault => cases h
      | none => cases hruntime : display.runtimeOnly <;> simp [Outcome.closing, hruntime] at h
  · rintro rfl
    rfl

theorem search_eq (listener : Listener σ) :
    search listener fs query display runtime elements = (do
      match ← (eventStream fs query display runtime elements).deliver listener with
      | .stop => return .sourceFound
      | .continue => return if display.runtimeOnly then .runtimeOnly else .completed) := by
  by_cases h : display.runtimeOnly = true
  · have hstream : eventStream fs query display runtime elements = runtime := by
      rw [eventStream, if_pos h, Feed.followedBy_empty]
    rw [hstream, search]
    exact bind_flow_congr rfl (by simp [h])
  · simp only [search, eventStream, h, Feed.deliver_followedBy, bind_assoc, searchElements_eq]
    exact bind_flow_congr (by simp) (by simp)

/-- A search is one delivery of its stream. What the listener takes is the shortest beginning
that ends in a match at which it stops or fails, or else the whole stream. -/
theorem search_delivers (listener : Listener σ) (state : σ) :
    ∃ taken answer after, taken <+: (eventStream fs query display runtime elements).items ∧
      Delivers listener state taken answer after ∧
      (answer = .ok .continue → taken = (eventStream fs query display runtime elements).items) ∧
      (search listener fs query display runtime elements).runFrom state =
        (Outcome.closing display (eventStream fs query display runtime elements).failure answer,
          after) := by
  rw [search_eq]
  generalize eventStream fs query display runtime elements = stream
  obtain ⟨taken, answer, after, hp, hd, hall, hrun⟩ :=
    deliver_delivers listener stream.items state
  refine ⟨taken, answer, after, hp, hd, hall, ?_⟩
  rw [Feed.deliver, bind_assoc]
  rcases answer with fault | _ | _
  case error => exact Action.runFrom_bind_error state hrun _
  case ok.stop =>
    rw [Action.runFrom_bind_ok state hrun]
    rfl
  case ok.continue =>
    rw [Action.runFrom_bind_ok state hrun]
    cases hf : stream.failure with
    | none => simp [Outcome.closing]
    | some fault => exact Action.runFrom_bind_error _ (Action.runFrom_throw _ fault) _

end

end ClassLocator
