/-!
# Feeds

What a source of items gives before it comes to its end: the items in order and, if the end is
not regular, the failure that it ends in.

## Main definitions

* `Feed`: items, then a regular end or a failure.
* `Feed.followedBy`: one feed after the other; nothing follows a failure.
* `Feed.join`: several feeds one after the other.
* `Feed.Only`: what is true of all items and of the failure.
-/

namespace ClassLocator

structure Feed (ε α : Type) where
  items : List α
  failure : Option ε := none
deriving Repr

namespace Feed

variable {ε ε' α β : Type}

@[ext] theorem ext {f g : Feed ε α} (hi : f.items = g.items) (hf : f.failure = g.failure) :
    f = g := by
  cases f; cases g; simp_all

def empty : Feed ε α := ⟨[], none⟩

def ofList (items : List α) : Feed ε α := ⟨items, none⟩

def fail (failure : ε) : Feed ε α := ⟨[], some failure⟩

/-- A feed that has failed gives nothing more. -/
def followedBy (f g : Feed ε α) : Feed ε α :=
  match f.failure with
  | none => ⟨f.items ++ g.items, g.failure⟩
  | some _ => f

@[simp] theorem empty_followedBy (f : Feed ε α) : empty.followedBy f = f := rfl

@[simp] theorem followedBy_empty (f : Feed ε α) : f.followedBy empty = f := by
  obtain ⟨items, failure⟩ := f
  cases failure <;> simp [followedBy, empty]

/-- The items of the second feed come behind those of the first one, if they come at all. -/
theorem items_followedBy (f g : Feed ε α) :
    ∃ rest, rest <+: g.items ∧ (f.followedBy g).items = f.items ++ rest := by
  obtain ⟨items, failure⟩ := f
  cases failure with
  | none => exact ⟨g.items, List.prefix_rfl, rfl⟩
  | some failure => exact ⟨[], List.nil_prefix, (List.append_nil items).symm⟩

theorem followedBy_assoc (f g h : Feed ε α) :
    (f.followedBy g).followedBy h = f.followedBy (g.followedBy h) := by
  obtain ⟨fi, ff⟩ := f
  obtain ⟨gi, gf⟩ := g
  cases ff <;> cases gf <;> simp [followedBy]

def join (feeds : List (Feed ε α)) : Feed ε α := feeds.foldr followedBy empty

@[simp] theorem join_nil : join ([] : List (Feed ε α)) = empty := rfl

@[simp] theorem join_cons (f : Feed ε α) (fs : List (Feed ε α)) :
    join (f :: fs) = f.followedBy (join fs) := rfl

theorem join_append (feeds others : List (Feed ε α)) :
    join (feeds ++ others) = (join feeds).followedBy (join others) := by
  induction feeds with
  | nil => rfl
  | cons f rest ih => rw [List.cons_append, join_cons, join_cons, ih, followedBy_assoc]

def map (g : α → β) (f : Feed ε α) : Feed ε β := ⟨f.items.map g, f.failure⟩

def filterMap (g : α → Option β) (f : Feed ε α) : Feed ε β := ⟨f.items.filterMap g, f.failure⟩

def mapFailure (g : ε → ε') (f : Feed ε α) : Feed ε' α := ⟨f.items, f.failure.map g⟩

@[simp] theorem items_map (g : α → β) (f : Feed ε α) : (f.map g).items = f.items.map g := rfl

@[simp] theorem failure_map (g : α → β) (f : Feed ε α) : (f.map g).failure = f.failure := rfl

@[simp] theorem items_filterMap (g : α → Option β) (f : Feed ε α) :
    (f.filterMap g).items = f.items.filterMap g := rfl

@[simp] theorem failure_filterMap (g : α → Option β) (f : Feed ε α) :
    (f.filterMap g).failure = f.failure := rfl

@[simp] theorem items_mapFailure (g : ε → ε') (f : Feed ε α) :
    (f.mapFailure g).items = f.items := rfl

@[simp] theorem failure_mapFailure (g : ε → ε') (f : Feed ε α) :
    (f.mapFailure g).failure = f.failure.map g := rfl

theorem map_followedBy (g : α → β) (f h : Feed ε α) :
    (f.followedBy h).map g = (f.map g).followedBy (h.map g) := by
  obtain ⟨items, failure⟩ := f
  cases failure <;> simp [followedBy, map]

theorem mapFailure_followedBy (g : ε → ε') (f h : Feed ε α) :
    (f.followedBy h).mapFailure g = (f.mapFailure g).followedBy (h.mapFailure g) := by
  obtain ⟨items, failure⟩ := f
  cases failure <;> simp [followedBy, mapFailure]

@[simp] theorem filterMap_empty (g : α → Option β) : (empty : Feed ε α).filterMap g = empty := rfl

@[simp] theorem filterMap_fail (g : α → Option β) (failure : ε) :
    (fail failure).filterMap g = fail failure := rfl

@[simp] theorem filterMap_followedBy (g : α → Option β) (f h : Feed ε α) :
    (f.followedBy h).filterMap g = (f.filterMap g).followedBy (h.filterMap g) := by
  obtain ⟨items, failure⟩ := f
  cases failure <;> simp [followedBy, filterMap]

theorem filterMap_join (g : α → Option β) (feeds : List (Feed ε α)) :
    (join feeds).filterMap g = join (feeds.map (filterMap g)) := by
  induction feeds with
  | nil => rfl
  | cons f rest ih => simp [ih]

/-! ## What is true of all that a feed gives -/

/-- All items are of one kind, and so is the failure if there is one. -/
structure Only (p : α → Prop) (q : ε → Prop) (f : Feed ε α) : Prop where
  items : ∀ item ∈ f.items, p item
  failure : ∀ failure ∈ f.failure, q failure

namespace Only

variable {p : α → Prop} {q : ε → Prop}

theorem empty : (Feed.empty : Feed ε α).Only p q :=
  ⟨fun _ h => absurd h List.not_mem_nil, by rintro _ ⟨⟩⟩

theorem ofList {items : List α} (h : ∀ item ∈ items, p item) :
    (Feed.ofList items : Feed ε α).Only p q :=
  ⟨h, by rintro _ ⟨⟩⟩

theorem fail {failure : ε} (h : q failure) : (Feed.fail failure : Feed ε α).Only p q :=
  ⟨fun _ hmem => absurd hmem List.not_mem_nil, by rintro _ ⟨⟩; exact h⟩

theorem followedBy {f g : Feed ε α} (hf : f.Only p q) (hg : g.Only p q) :
    (f.followedBy g).Only p q := by
  unfold Feed.followedBy
  split
  · refine ⟨fun item hmem => ?_, hg.failure⟩
    rcases List.mem_append.1 hmem with hmem | hmem
    · exact hf.items item hmem
    · exact hg.items item hmem
  · exact hf

theorem join {feeds : List (Feed ε α)} (h : ∀ f ∈ feeds, f.Only p q) :
    (Feed.join feeds).Only p q := by
  induction feeds with
  | nil => exact .empty
  | cons f rest ih =>
    obtain ⟨hf, hrest⟩ := List.forall_mem_cons.1 h
    exact hf.followedBy (ih hrest)

theorem imp {p' : α → Prop} {q' : ε → Prop} {f : Feed ε α} (h : f.Only p q)
    (hitem : ∀ item, p item → p' item) (hfailure : ∀ failure, q failure → q' failure) :
    f.Only p' q' :=
  ⟨fun item hmem => hitem item (h.items item hmem),
    fun failure hmem => hfailure failure (h.failure failure hmem)⟩

theorem map {p' : β → Prop} {g : α → β} {f : Feed ε α} (h : f.Only p q)
    (hg : ∀ item, p item → p' (g item)) : (f.map g).Only p' q := by
  refine ⟨fun item hmem => ?_, h.failure⟩
  obtain ⟨before, hbefore, rfl⟩ := List.mem_map.1 hmem
  exact hg before (h.items before hbefore)

theorem mapFailure {q' : ε' → Prop} {g : ε → ε'} {f : Feed ε α} (h : f.Only p q)
    (hg : ∀ failure, q failure → q' (g failure)) : (f.mapFailure g).Only p q' := by
  refine ⟨h.items, fun failure hmem => ?_⟩
  obtain ⟨before, hbefore, rfl⟩ := Option.map_eq_some_iff.1 hmem
  exact hg before (h.failure before hbefore)

end Only

end Feed

end ClassLocator
