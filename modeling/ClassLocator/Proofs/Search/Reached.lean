import ClassLocator.Proofs.Search.Stream

/-!
# The elements that a search gets to

A search goes through the elements of the class path in their order, and no further than to the
first one whose scan fails. A search of the runtime only, and one whose runtime fails, does not get
to the class path. So the stream of matches is cut into the matches of the runtime and those of
each element that is reached.

## Main definitions

* `reached`: the elements that a search gets to if nothing stops it.

## Main statements

* `reached_isPrefix`: the elements are reached in their order.
* `items_matchStream`: the matches of a search, element by element.
-/

namespace ClassLocator

section

variable (fs : FileSystem) (query : Query) (display : Display)

/-- Elements up to the first one whose scan fails. -/
def untilFailure : List Element → List Element
  | [] => []
  | element :: rest =>
    element :: if (element.hits fs query display).failure.isSome then [] else untilFailure rest

/-- The elements that a search gets to if nothing stops it. -/
def reached (runtime : Feed Fault Match) (elements : List Element) : List Element :=
  if display.runtimeOnly || runtime.failure.isSome then []
  else untilFailure fs query display elements

end

variable {fs : FileSystem} {query : Query} {display : Display} {runtime : Feed Fault Match}
  {elements : List Element}

theorem untilFailure_isPrefix (elements : List Element) :
    untilFailure fs query display elements <+: elements := by
  induction elements with
  | nil => exact List.prefix_rfl
  | cons element rest ih =>
    rw [untilFailure]
    split
    · exact List.cons_prefix_cons.2 ⟨rfl, List.nil_prefix⟩
    · exact List.cons_prefix_cons.2 ⟨rfl, ih⟩

theorem items_join_hits (elements : List Element) :
    (Feed.join (elements.map (Element.hits fs query display))).items =
      (untilFailure fs query display elements).flatMap fun element =>
        (element.hits fs query display).items := by
  induction elements with
  | nil => rfl
  | cons element rest ih =>
    rw [List.map_cons, Feed.join_cons, untilFailure, List.flatMap_cons]
    unfold Feed.followedBy
    split
    case h_1 hfirst =>
      rw [hfirst, ih]
      rfl
    case h_2 fault hfirst =>
      rw [hfirst]
      exact (List.append_nil _).symm

/-- The elements are reached in their order. -/
theorem reached_isPrefix (runtime : Feed Fault Match) (elements : List Element) :
    reached fs query display runtime elements <+: elements := by
  unfold reached
  split
  · exact List.nil_prefix
  · exact untilFailure_isPrefix elements

/-- The matches of a search are those of the runtime and of the elements that are reached. -/
theorem items_matchStream (runtime : Feed Fault Match) (elements : List Element) :
    (matchStream fs query display runtime elements).items = runtime.items ++
      (reached fs query display runtime elements).flatMap fun element =>
        (element.hits fs query display).items := by
  unfold matchStream reached Feed.followedBy
  split
  case h_1 hruntime =>
    cases hsearched : display.runtimeOnly with
    | true => simp [Feed.empty]
    | false => simp [hruntime, items_join_hits]
  case h_2 fault hruntime => simp [hruntime]

end ClassLocator
