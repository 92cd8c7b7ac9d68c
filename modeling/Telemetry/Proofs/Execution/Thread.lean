import Mathlib.Data.List.TakeWhile
import Telemetry.Proofs.Execution.Frame

/-!
# Threads

What one thread does with spans and tags, step after step: `Thread.run`.  A thread starts spans, ends them
in every way there is, changes what is recorded on them, makes other tags current, and drops the guards
that restore the tags from before, in any order.

Every position that the thread was given has one owner, an open span or a guard of tags, and what is held
there is still held: `Thread.Owns`.  As long as this is so, every action is one of four moves
(`Thread.Owns.move`): a span begins outside the stack, a span opens, tags are attached, or spans and tags
go away.  What is invariant under the four moves is invariant under every run.
-/

namespace Telemetry

/-- A change to what is recorded on a span. -/
inductive SpanChange where
  /-- An attribute is set. -/
  | attribute (a : Attribute)
  /-- A note is added. -/
  | note (text : String) (attributes : List Attribute)
  /-- A message event is added. -/
  | message (event : MessageEvent)
  /-- A link is added. -/
  | link (link : Link)
  /-- The status is set. -/
  | status (status : Status)
  /-- The name is set. -/
  | name (name : String)
  /-- A failure is noted. -/
  | failure (message : String)

/-- The changed record, under the given limits at the given time. -/
def SpanChange.apply (limits : SpanLimits) (now : Timestamp) (r : SpanRecord) :
    SpanChange → SpanRecord
  | .attribute a => r.setAttribute limits a
  | .note text attributes => r.addNote limits now text attributes
  | .message m => r.addMessage limits now m
  | .link l => r.addLink limits l
  | .status st => r.setStatus st
  | .name n => r.rename n
  | .failure text => r.fail text

/-- Changes what is recorded on a span. -/
def Execution.change (e : Execution) (s : SpanRef) : SpanChange → Execution
  | .attribute a => e.setAttribute s a
  | .note text attributes => e.addNote s text attributes
  | .message event => e.addMessage s event
  | .link link => e.addLink s link
  | .status status => e.setStatus s status
  | .name name => e.rename s name
  | .failure message => e.fail s message

theorem Execution.change_eq (e : Execution) (s : SpanRef) (c : SpanChange) :
    e.change s c = e.modifyRecord s fun r => c.apply (e.limitsOf s) e.clock r := by
  cases c <;> rfl

/-- Something that a thread does. -/
inductive ThreadAction where
  /-- A span of `t` is started in the current context and made current. -/
  | start (t : TracerRef) (name : String) (kind : SpanKind)
  /-- A span of `t` is started in `cx` and not made current. -/
  | startIn (t : TracerRef) (cx : Context) (name : String) (kind : SpanKind)
  /-- The newest open span of `t` is ended. -/
  | endNewest (t : TracerRef)
  /-- The open span `s` of `t` is ended. -/
  | endOpen (t : TracerRef) (s : SpanRef)
  /-- A span is ended, wherever it was started. -/
  | endSpan (s : SpanRef)
  /-- A span is ended at the given time. -/
  | endAt (s : SpanRef) (time : Timestamp)
  /-- What is recorded on a span is changed. -/
  | change (s : SpanRef) (c : SpanChange)
  /-- What is recorded on the current span of `t` is changed. -/
  | changeCurrent (t : TracerRef) (c : SpanChange)
  /-- Other tags are made current. -/
  | setTags (tags : TagMap)
  /-- One of the guards of tags that are alive is dropped, the newest of them having index 0. -/
  | dropTags (index : Nat)
  /-- Time passes. -/
  | wait (now : Timestamp)

/-- A thread with the guards of tags that are alive. -/
structure Thread where
  /-- The execution. -/
  execution : Execution
  /-- The positions of the tags whose guards are alive, the newest first; none if refused. -/
  guards : List (Option Nat)

namespace Thread

/-- A thread on which nothing has happened. -/
def fresh (e : Execution) : Thread := ⟨e.newThread, []⟩

/-- One action. -/
def step (s : Thread) : ThreadAction → Thread
  | .start t name kind => ⟨(s.execution.start t name kind).2, s.guards⟩
  | .startIn t cx name kind => ⟨(s.execution.startIn t cx name kind).2, s.guards⟩
  | .endNewest t => ⟨s.execution.endNewest t, s.guards⟩
  | .endOpen t span => ⟨s.execution.endOpen t span, s.guards⟩
  | .endSpan span => ⟨s.execution.endSpan span, s.guards⟩
  | .endAt span time => ⟨s.execution.endAt span time, s.guards⟩
  | .change span c => ⟨s.execution.change span c, s.guards⟩
  | .changeCurrent t c => ⟨s.execution.onCurrent t fun e span => e.change span c, s.guards⟩
  | .setTags tags =>
    let (position, e) := s.execution.attachTags tags
    ⟨e, position :: s.guards⟩
  | .dropTags index =>
    match s.guards[index]? with
    | some position => ⟨s.execution.detach position, s.guards.eraseIdx index⟩
    | none => s
  | .wait now => ⟨{ s.execution with clock := now }, s.guards⟩

/-- A sequence of actions. -/
def run (s : Thread) (actions : List ThreadAction) : Thread := actions.foldl step s

/-- Whether another context can be attached. -/
def hasRoom (s : Thread) : Bool := s.execution.contexts.below.size + 1 < maxAttachPosition

/-- Whether no context is refused in an action. -/
def admits (s : Thread) : ThreadAction → Bool
  | .start .. => s.hasRoom
  | .setTags _ => s.hasRoom
  | _ => true

/-- No context is refused in a sequence of actions. -/
def Unrefused (s : Thread) : List ThreadAction → Prop
  | [] => True
  | a :: rest => s.admits a = true ∧ (s.step a).Unrefused rest

instance decidableUnrefused : (s : Thread) → (actions : List ThreadAction) →
    Decidable (s.Unrefused actions)
  | _, [] => .isTrue trivial
  | s, a :: rest =>
    have := decidableUnrefused (s.step a) rest
    inferInstanceAs (Decidable (_ ∧ _))

/-! ### Moves -/

/-- The thread `s'` is `s` after the open spans in `removed` were taken off and the guards in `dropped`
were dropped, what both held was detached, and the spans in `ended` have ended. -/
structure Retreats (s s' : Thread) (removed : List OpenSpan) (dropped : List (Option Nat))
    (ended : List SpanRef) : Prop where
  kept : s'.execution.openSpans.Sublist s.execution.openSpans
  entries : s.execution.openSpans.Perm (removed ++ s'.execution.openSpans)
  guards : s.guards.Perm (dropped ++ s'.guards)
  closed : ∀ o ∈ removed, o.span ∈ ended
  releases : Execution.Releases { s.execution with openSpans := s'.execution.openSpans }
    s'.execution (removed.filterMap (·.position) ++ dropped.filterMap id) ended

/-- What an action can do to the stacks of a thread. -/
inductive Move (s : Thread) : ThreadAction → Thread → Prop
  /-- A span begins and is not made current. -/
  | begins {a : ThreadAction} {t : TracerRef} {e : Execution}
      (h : Execution.Begins s.execution e t) : Move s a ⟨e, s.guards⟩
  /-- A span begins and is made current. -/
  | opens {t : TracerRef} {name : String} {kind : SpanKind} {e e' : Execution}
      {position : Option Nat} (hroom : position.isSome = s.hasRoom)
      (hbegins : Execution.Begins s.execution e t)
      (hattaches : Execution.Attaches e e' position
        (s.execution.currentContext.withSpan ⟨s.execution.spans.size⟩)) :
      Move s (.start t name kind)
        ⟨{ e' with openSpans := ⟨t, ⟨s.execution.spans.size⟩, position⟩ :: e'.openSpans },
          s.guards⟩
  /-- Other tags are made current. -/
  | tags {a : ThreadAction} {tags : TagMap} {e : Execution} {position : Option Nat}
      (h : Execution.Attaches s.execution e position (s.execution.currentContext.withTags tags)) :
      Move s a ⟨e, position :: s.guards⟩
  /-- Open spans and tags go away. -/
  | retreats {a : ThreadAction} {s' : Thread} {removed : List OpenSpan}
      {dropped : List (Option Nat)} {ended : List SpanRef}
      (h : Retreats s s' removed dropped ended) : Move s a s'

/-- The positions that open spans and guards own. -/
def positions (s : Thread) : List Nat :=
  s.execution.openSpans.filterMap (·.position) ++ s.guards.filterMap id

/-- Every position has one owner, and something is held there. -/
structure Owns (s : Thread) : Prop where
  grounded : s.execution.contexts.Grounded .empty
  nodup : s.positions.Nodup
  holds : ∀ p ∈ s.positions, s.execution.Holds p

theorem owns_fresh (e : Execution) : (fresh e).Owns :=
  ⟨List.mem_singleton_self _, .nil, fun _ hp => (nomatch hp)⟩

/-- Ending spans that are not open, and nothing else. -/
theorem retreats_of_releases {s : Thread} {e : Execution} {ended : List SpanRef}
    (h : Execution.Releases s.execution e [] ended) : Retreats s ⟨e, s.guards⟩ [] [] ended where
  kept := by rw [h.openSpans]
  entries := by rw [h.openSpans]; exact .refl _
  guards := .refl _
  closed := fun _ ho => (nomatch ho)
  releases := ⟨h.held, rfl, h.size, h.outline⟩

theorem retreats_of_sameShape {s : Thread} {e : Execution}
    (h : Execution.SameShape s.execution e) : Retreats s ⟨e, s.guards⟩ [] [] [] :=
  retreats_of_releases h.releases

theorem sameShape_change (e : Execution) (span : SpanRef) (c : SpanChange) :
    Execution.SameShape e (e.change span c) := by
  rw [Execution.change_eq]
  exact Execution.sameShape_modifyRecord _ _ _

theorem retreats_dropTags {s : Thread} (h : s.Owns) {index : Nat} {position : Option Nat}
    (hindex : s.guards[index]? = some position) :
    Retreats s ⟨s.execution.detach position, s.guards.eraseIdx index⟩ [] [position] [] := by
  have hperm : s.guards.Perm (position :: s.guards.eraseIdx index) := by
    obtain ⟨hlt, rfl⟩ := List.getElem?_eq_some_iff.1 hindex
    exact (List.getElem_cons_eraseIdx_perm hlt).symm
  have hheld : ∀ p ∈ position, s.execution.Holds p := fun p hp =>
    h.holds p (List.mem_append_right _
      (List.mem_filterMap.2 ⟨position, List.mem_of_getElem? hindex, hp⟩))
  have hdetach := Execution.releases_detach h.grounded hheld
  have hlist : [position].filterMap id = position.toList := by cases position <;> rfl
  constructor
  · rw [hdetach.openSpans]
  · rw [hdetach.openSpans]
    exact .refl _
  · exact hperm
  · rintro _ ⟨⟩
  · rw [List.filterMap_nil, List.nil_append, hlist]
    exact ⟨hdetach.held, rfl, hdetach.size, hdetach.outline⟩

/-- Open spans end: those in `abandoned` are abandoned, and `entry` ends as it is. -/
theorem retreats_close {s : Thread} (h : s.Owns) {e : Execution}
    {abandoned kept : List OpenSpan} {entry : OpenSpan}
    (hperm : s.execution.openSpans.Perm ((abandoned ++ [entry]) ++ kept))
    (hkept : kept.Sublist s.execution.openSpans)
    (hshape : Execution.SameShape { s.execution with openSpans := kept } e) :
    Retreats s
      ⟨((abandoned.foldl Execution.abandon e).detach entry.position).endSpan entry.span, s.guards⟩
      (abandoned ++ [entry]) [] ((abandoned ++ [entry]).map (·.span)) := by
  -- The positions to release are some of those that have owners, so they are distinct and held.
  have hsub : ((abandoned ++ [entry]).filterMap (·.position)).Subperm s.positions := by
    have := (hperm.filterMap (·.position)).symm.subperm
    rw [List.filterMap_append] at this
    exact ((List.sublist_append_left _ _).subperm.trans this).trans
      (List.sublist_append_left _ _).subperm
  have hnodup : ((abandoned ++ [entry]).filterMap (·.position)).Nodup := by
    obtain ⟨l, hl, hlsub⟩ := hsub
    exact hl.nodup_iff.1 (h.nodup.sublist hlsub)
  have hheld : ∀ p ∈ (abandoned ++ [entry]).filterMap (·.position), e.Holds p := fun p hp => by
    rw [Execution.Holds, hshape.contexts]
    exact h.holds p (hsub.subset hp)
  have hground : e.contexts.Grounded .empty := by
    rw [hshape.contexts]
    exact h.grounded
  have hclose := hshape.releases.trans
    (Execution.releases_close hground hnodup hheld)
  have hopen := hclose.openSpans
  constructor
  · rw [hopen]
    exact hkept
  · rw [hopen]
    exact hperm
  · exact .refl _
  · intro o ho
    exact List.mem_map_of_mem ho
  · rw [List.filterMap_nil, List.append_nil]
    exact ⟨hclose.held, rfl, hclose.size, hclose.outline⟩

/-- A tracer has an open span or not; if it has, the open spans split at its newest one. -/
theorem newest_or_none (e : Execution) (t : TracerRef) :
    (e.openSpans.find? (·.tracer == t) = none ∧ e.endNewest t = e.report .noOpenSpan) ∨
      ∃ newer entry older, e.openSpans.find? (·.tracer == t) = some entry ∧
        e.openSpans = newer ++ entry :: older ∧ entry.tracer = t ∧
        (∀ o ∈ newer, o.tracer ≠ t) ∧
        e.endNewest t = (Execution.detach { e with openSpans := newer ++ older }
          entry.position).endSpan entry.span := by
  unfold Execution.endNewest
  cases hfind : e.openSpans.find? (·.tracer == t) with
  | none => exact .inl ⟨rfl, rfl⟩
  | some entry =>
    obtain ⟨hentry, newer, older, hopen, hnewer⟩ := List.find?_eq_some_iff_append.1 hfind
    have herase : e.openSpans.eraseP (·.tracer == t) = newer ++ older := by
      rw [hopen, List.eraseP_append_right _ (fun o ho => by simpa using hnewer o ho),
        List.eraseP_cons_of_pos (by exact hentry)]
    refine .inr ⟨newer, entry, older, rfl, hopen, by simpa using hentry,
      fun o ho => by simpa using hnewer o ho, ?_⟩
    rw [← herase]

/-- Ending the newest open span of `t` takes it off the stack. -/
theorem retreats_endNewest {s : Thread} (h : s.Owns) (t : TracerRef) :
    let newest := (s.execution.openSpans.find? (·.tracer == t)).toList
    Retreats s ⟨s.execution.endNewest t, s.guards⟩ newest [] (newest.map (·.span)) := by
  rcases newest_or_none s.execution t with
    ⟨hfind, hend⟩ | ⟨newer, entry, older, hfind, hopen, -, -, hend⟩
  · rw [hfind, hend]
    exact retreats_of_sameShape (Execution.sameShape_report _ _)
  · have hperm : s.execution.openSpans.Perm (([] ++ [entry]) ++ (newer ++ older)) := by
      rw [hopen]
      exact List.perm_middle
    have hkept : (newer ++ older).Sublist s.execution.openSpans := by
      rw [hopen]
      exact (List.sublist_cons_self entry older).append_left newer
    rw [hfind, hend]
    exact retreats_close h hperm hkept (Execution.SameShape.refl _)

/-! ### Ending a given open span -/

/-- A span that is not open is simply ended. -/
theorem endOpen_of_not_open {e : Execution} {t : TracerRef} {span : SpanRef}
    (h : ∀ o ∈ e.openSpans, ¬(o.tracer = t ∧ o.span = span)) :
    e.endOpen t span = e.endSpan span := by
  have hdrop : (e.openSpans.dropWhile fun entry =>
      !(entry.tracer == t && entry.span == span)) = [] :=
    List.dropWhile_eq_nil_iff.2 fun o ho => by simpa [imp_iff_not_or] using h o ho
  unfold Execution.endOpen
  simp only [hdrop]

/-- The execution before an open span of `t` ends, with `abandoned` to be abandoned and `kept` to remain
open. -/
def rewound (e : Execution) (span : SpanRef) (abandoned kept : List OpenSpan) : Execution :=
  let e := { e with openSpans := kept }
  if abandoned.isEmpty then e
  else e.report (.outOfOrderEnd (e.span span).context.spanId abandoned.length)

theorem sameShape_rewound (e : Execution) (span : SpanRef) (abandoned kept : List OpenSpan) :
    Execution.SameShape { e with openSpans := kept } (rewound e span abandoned kept) := by
  unfold rewound
  split
  · exact Execution.SameShape.refl _
  · exact Execution.sameShape_report _ _

/-- The newer open spans of `t` are abandoned before a span ends that is open. -/
theorem endOpen_of_open {e : Execution} {entry : OpenSpan} {newer older : List OpenSpan}
    (hopen : e.openSpans = newer ++ entry :: older)
    (hnewer : ∀ o ∈ newer, ¬(o.tracer = entry.tracer ∧ o.span = entry.span)) :
    e.endOpen entry.tracer entry.span =
      ((((newer.filter (·.tracer == entry.tracer)).foldl Execution.abandon
        (rewound e entry.span (newer.filter (·.tracer == entry.tracer))
          (newer.filter (·.tracer != entry.tracer) ++ older))).detach entry.position).endSpan
        entry.span) := by
  have hnot : ∀ o ∈ newer,
      (!(o.tracer == entry.tracer && o.span == entry.span)) = true := fun o ho => by
    simpa [imp_iff_not_or] using hnewer o ho
  have htake : (e.openSpans.takeWhile fun o =>
      !(o.tracer == entry.tracer && o.span == entry.span)) = newer := by
    rw [hopen, List.takeWhile_append_of_pos hnot, List.takeWhile_cons_of_neg (by simp),
      List.append_nil]
  have hdrop : (e.openSpans.dropWhile fun o =>
      !(o.tracer == entry.tracer && o.span == entry.span)) = entry :: older := by
    rw [hopen, List.dropWhile_append_of_pos hnot, List.dropWhile_cons_of_neg (by simp)]
  unfold Execution.endOpen
  simp only [hdrop, htake]
  rfl

theorem retreats_endOpen {s : Thread} (h : s.Owns) {entry : OpenSpan}
    {newer older : List OpenSpan} (hopen : s.execution.openSpans = newer ++ entry :: older)
    (hnewer : ∀ o ∈ newer, ¬(o.tracer = entry.tracer ∧ o.span = entry.span)) :
    let removed := newer.filter (·.tracer == entry.tracer) ++ [entry]
    Retreats s ⟨s.execution.endOpen entry.tracer entry.span, s.guards⟩ removed []
      (removed.map (·.span)) := by
  rw [endOpen_of_open hopen hnewer]
  refine retreats_close h ?_ ?_ (sameShape_rewound _ _ _ _)
  · -- Of the newer ones, those of the tracer go away and the others stay.
    have hparts : (newer.filter (·.tracer == entry.tracer) ++
        newer.filter (·.tracer != entry.tracer)).Perm newer :=
      List.filter_append_perm (·.tracer == entry.tracer) newer
    rw [hopen, List.append_assoc, List.singleton_append]
    refine List.perm_middle.trans (.trans ?_ List.perm_middle.symm)
    rw [← List.append_assoc]
    exact (hparts.symm.append_right older).cons entry
  · rw [hopen]
    exact List.filter_sublist.append (List.sublist_cons_self _ _)

/-- A span is open or not; if it is, the open spans split at it. -/
theorem open_or_not (e : Execution) (t : TracerRef) (span : SpanRef) :
    (∀ o ∈ e.openSpans, ¬(o.tracer = t ∧ o.span = span)) ∨
      ∃ newer entry older, e.openSpans = newer ++ entry :: older ∧
        entry.tracer = t ∧ entry.span = span ∧ ∀ o ∈ newer, ¬(o.tracer = t ∧ o.span = span) := by
  cases hfind : e.openSpans.find? fun o => o.tracer = t ∧ o.span = span with
  | none => exact .inl fun o ho => by simpa using List.find?_eq_none.1 hfind o ho
  | some entry =>
    obtain ⟨hentry, newer, older, hsplit, hnewer⟩ := List.find?_eq_some_iff_append.1 hfind
    obtain ⟨ht, hspan⟩ := of_decide_eq_true hentry
    exact .inr ⟨newer, entry, older, hsplit, ht, hspan, fun o ho => by
      simpa [imp_iff_not_or] using hnewer o ho⟩

/-! ### Every action is a move -/

theorem start_eq (e : Execution) (t : TracerRef) (name : String) (kind : SpanKind) :
    let begun := (e.startIn t e.currentContext name kind).2
    let attached := begun.attach (e.currentContext.withSpan ⟨e.spans.size⟩)
    e.start t name kind = (⟨e.spans.size⟩,
      { attached.2 with
        openSpans := ⟨t, ⟨e.spans.size⟩, attached.1⟩ :: attached.2.openSpans }) := by
  have hspan : (e.startIn t e.currentContext name kind).1 = ⟨e.spans.size⟩ := by
    rw [Execution.startIn_eq]
  simp only [Execution.start, hspan]

/-- **Every action is a move** as long as positions have owners. -/
theorem Owns.move {s : Thread} (h : s.Owns) (a : ThreadAction) : s.Move a (s.step a) := by
  cases a with
  | start t name kind =>
    have hbegins := Execution.begins_startIn s.execution t s.execution.currentContext name kind
    have hattaches := Execution.attaches_attach
      (s.execution.startIn t s.execution.currentContext name kind).2
      (s.execution.currentContext.withSpan ⟨s.execution.spans.size⟩)
    show s.Move _ ⟨(s.execution.start t name kind).2, s.guards⟩
    rw [start_eq]
    refine .opens ?_ hbegins hattaches
    rw [Execution.isSome_attach, hbegins.contexts]
    rfl
  | startIn t cx name kind => exact .begins (Execution.begins_startIn s.execution t cx name kind)
  | endNewest t => exact .retreats (retreats_endNewest h t)
  | endOpen t span =>
    rcases open_or_not s.execution t span with hnot | ⟨newer, entry, older, hopen, rfl, rfl, hnewer⟩
    · show s.Move _ ⟨s.execution.endOpen t span, s.guards⟩
      rw [endOpen_of_not_open hnot]
      exact .retreats (retreats_of_releases (Execution.releases_endSpan _ _))
    · exact .retreats (retreats_endOpen h hopen hnewer)
  | endSpan span => exact .retreats (retreats_of_releases (Execution.releases_endSpan _ _))
  | endAt span time => exact .retreats (retreats_of_releases (Execution.releases_endAt _ _ _))
  | change span c => exact .retreats (retreats_of_sameShape (sameShape_change _ _ _))
  | changeCurrent t c =>
    refine .retreats (retreats_of_sameShape ?_)
    unfold Execution.onCurrent
    split
    · exact sameShape_change _ _ _
    · exact Execution.SameShape.refl _
  | setTags tags => exact .tags (Execution.attaches_attach _ _)
  | dropTags index =>
    simp only [step]
    split
    next position hposition => exact .retreats (retreats_dropTags h hposition)
    next => exact .retreats (retreats_of_sameShape (Execution.SameShape.refl _))
  | wait now => exact .retreats (retreats_of_sameShape ⟨rfl, rfl, rfl, fun _ => rfl⟩)

end Thread

end Telemetry
