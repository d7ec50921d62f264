import ClassLocator.Proofs.Search.Stream

/-!
# Callbacks whose answers are known

A search goes by its stream of matches and by the answers that these get. Where the answer to each
match is known, whatever state the callback is in, it is known as well which matches are handed
over and what the search ends in, and nothing else about the callback makes a difference.

## Main definitions

* `Follows`: a callback that gives the answer that is known.
* `handedOver`: the matches up to the first one whose answer is not to go on.
* `lastAnswer`: the answer to the last of these.

## Main statements

* `handedOver_cases`: all answers are to go on, or just those before the last one.
* `search_recording_of_follows`: what such a callback receives, and what the search ends in.
-/

namespace ClassLocator

variable {σ : Type} {answerTo : Match → Except Fault Flow}

/-- Whatever state it is in, the callback gives this answer to the match. -/
def Follows (answerTo : Match → Except Fault Flow) (callback : Match → Action σ Flow)
    (found : Match) : Prop :=
  ∀ state, ((callback found).runFrom state).1 = answerTo found

/-- The matches up to and with the first one whose answer is not to go on. -/
def handedOver (answerTo : Match → Except Fault Flow) : List Match → List Match
  | [] => []
  | found :: rest =>
    match answerTo found with
    | .ok .continue => found :: handedOver answerTo rest
    | _ => [found]

/-- The answer that is not to go on, if there is one. -/
def lastAnswer (answerTo : Match → Except Fault Flow) : List Match → Except Fault Flow
  | [] => .ok .continue
  | found :: rest =>
    match answerTo found with
    | .ok .continue => lastAnswer answerTo rest
    | answer => answer

/-! ## The last match -/

section

variable {found : Match} {rest before : List Match}

theorem handedOver_cons_continue (h : answerTo found = .ok .continue) :
    handedOver answerTo (found :: rest) = found :: handedOver answerTo rest := by
  simp [handedOver, h]

theorem handedOver_cons_of_ne (h : answerTo found ≠ .ok .continue) :
    handedOver answerTo (found :: rest) = [found] := by
  unfold handedOver
  split
  · contradiction
  · rfl

theorem lastAnswer_cons_continue (h : answerTo found = .ok .continue) :
    lastAnswer answerTo (found :: rest) = lastAnswer answerTo rest := by
  simp [lastAnswer, h]

theorem lastAnswer_cons_of_ne (h : answerTo found ≠ .ok .continue) :
    lastAnswer answerTo (found :: rest) = answerTo found := by
  unfold lastAnswer
  split
  · contradiction
  · rfl

/-- Matches that let the search go on are all handed over, and so is what comes after them. -/
theorem handedOver_append (h : ∀ found ∈ before, answerTo found = .ok .continue) :
    handedOver answerTo (before ++ rest) = before ++ handedOver answerTo rest := by
  induction before with
  | nil => rfl
  | cons first others ih =>
    obtain ⟨hfirst, hothers⟩ := List.forall_mem_cons.1 h
    rw [List.cons_append, handedOver_cons_continue hfirst, ih hothers, List.cons_append]

theorem handedOver_eq_self (h : ∀ found ∈ before, answerTo found = .ok .continue) :
    handedOver answerTo before = before := by
  have hall : handedOver answerTo (before ++ []) = before ++ handedOver answerTo [] :=
    handedOver_append h
  rwa [List.append_nil, handedOver, List.append_nil] at hall

theorem isPrefix_handedOver (answerTo : Match → Except Fault Flow) (items : List Match) :
    handedOver answerTo items <+: items := by
  induction items with
  | nil => exact List.nil_prefix
  | cons first rest ih =>
    by_cases hfirst : answerTo first = .ok .continue
    · rw [handedOver_cons_continue hfirst]
      exact List.cons_prefix_cons.2 ⟨rfl, ih⟩
    · rw [handedOver_cons_of_ne hfirst]
      exact List.cons_prefix_cons.2 ⟨rfl, List.nil_prefix⟩

/-- Only the last match that is handed over may not let the search go on. -/
theorem handedOver_cases (answerTo : Match → Except Fault Flow) (items : List Match) :
    (lastAnswer answerTo items = .ok .continue ∧ handedOver answerTo items = items ∧
      ∀ found ∈ items, answerTo found = .ok .continue) ∨
    ∃ before last, handedOver answerTo items = before ++ [last] ∧
      lastAnswer answerTo items = answerTo last ∧ answerTo last ≠ .ok .continue ∧
      ∀ found ∈ before, answerTo found = .ok .continue := by
  induction items with
  | nil => exact .inl ⟨rfl, rfl, List.forall_mem_nil _⟩
  | cons first rest ih =>
    by_cases hfirst : answerTo first = .ok .continue
    · rw [lastAnswer_cons_continue hfirst, handedOver_cons_continue hfirst]
      rcases ih with ⟨hlast, hhanded, hrest⟩ | ⟨before, last, hhanded, hlast, hne, hbefore⟩
      · exact .inl ⟨hlast, by rw [hhanded], List.forall_mem_cons.2 ⟨hfirst, hrest⟩⟩
      · refine .inr ⟨first :: before, last, ?_, hlast, hne, ?_⟩
        · rw [hhanded, List.cons_append]
        · exact List.forall_mem_cons.2 ⟨hfirst, hbefore⟩
    · rw [lastAnswer_cons_of_ne hfirst, handedOver_cons_of_ne hfirst]
      exact .inr ⟨[], first, rfl, rfl, hfirst, List.forall_mem_nil _⟩

/-- After each match but the last one the search goes on. -/
theorem answerTo_of_mem_dropLast {items : List Match}
    (h : found ∈ (handedOver answerTo items).dropLast) : answerTo found = .ok .continue := by
  rcases handedOver_cases answerTo items with ⟨-, hhanded, hitems⟩ | ⟨before, last, hhanded, -, -,
    hbefore⟩
  · rw [hhanded] at h
    exact hitems found (List.dropLast_subset _ h)
  · rw [hhanded, List.dropLast_concat] at h
    exact hbefore found h

end

/-! ## Searches -/

/-- A callback that gives the answers that are known gets the matches that are known from them. -/
theorem Answers.received_eq {callback : Match → Action σ Flow} {state after : σ}
    {received items : List Match} {answer : Except Fault Flow}
    (h : Answers callback state received answer after) (hbegins : received <+: items)
    (hall : answer = .ok .continue → received = items)
    (hfollows : ∀ found ∈ items, Follows answerTo callback found) :
    received = handedOver answerTo items ∧ answer = lastAnswer answerTo items := by
  induction h generalizing items with
  | nil state =>
    rw [← hall rfl]
    exact ⟨rfl, rfl⟩
  | @last state after found answer hrun hne =>
    obtain ⟨rest, rfl⟩ := hbegins
    have hanswer := hfollows found List.mem_cons_self state
    rw [hrun] at hanswer
    have hstops : answerTo found ≠ .ok .continue := by
      rw [← hanswer]
      exact hne
    rw [List.singleton_append, handedOver_cons_of_ne hstops, lastAnswer_cons_of_ne hstops]
    exact ⟨rfl, hanswer⟩
  | @next state between after found others answer hrun _ ih =>
    obtain ⟨rest, rfl⟩ := hbegins
    rw [List.cons_append] at hall hfollows ⊢
    obtain ⟨hfound, hothers⟩ := List.forall_mem_cons.1 hfollows
    have hgoesOn := hfound state
    rw [hrun] at hgoesOn
    obtain ⟨hreceived, hanswer⟩ := ih (List.prefix_append others rest)
      (fun h => List.tail_eq_of_cons_eq (hall h)) hothers
    rw [handedOver_cons_continue hgoesOn.symm, lastAnswer_cons_continue hgoesOn.symm,
      ← hreceived]
    exact ⟨rfl, hanswer⟩

/-- A callback that gives the answers that are known receives the matches that are handed over by
these, and the last answer decides what the search ends in. -/
theorem search_recording_of_follows {callback : Match → Action σ Flow} {fs : FileSystem}
    {query : Query} {display : Display} {runtime : Feed Fault Event} {elements : List Element}
    {stream : Feed Fault Event} (hstream : eventStream fs query display runtime elements = stream)
    (hfollows : ∀ found ∈ stream.items.filterMap Event.match?, Follows answerTo callback found)
    (state : σ) :
    ∃ after, (search (.recording callback) fs query display runtime elements).runFrom (state, []) =
      (Outcome.closing display stream.failure
          (lastAnswer answerTo (stream.items.filterMap Event.match?)),
        after, handedOver answerTo (stream.items.filterMap Event.match?)) := by
  subst hstream
  obtain ⟨taken, answer, ⟨after, received⟩, hbegins, hdelivers, hall, hrun⟩ :=
    search_delivers fs query display runtime elements (.recording callback) (state, [])
  obtain ⟨hanswers, hreceived⟩ := hdelivers.answers
  rw [List.nil_append] at hreceived
  obtain ⟨hhanded, hanswer⟩ := hanswers.received_eq (hbegins.filterMap _)
    (fun h => by rw [hall h]) hfollows
  refine ⟨after, ?_⟩
  rw [hrun, ← hanswer, ← hhanded]
  exact congrArg (Prod.mk _ <| Prod.mk _ ·) hreceived

end ClassLocator
