import Telemetry.Proofs.Execution.SpanLog

/-!
# What is kept of the changes to a span

Attributes, notes, message events and links are kept up to a limit each, and what is beyond the limit is
dropped and counted.  `SpanRecord.Accounts` says of a record which of the changes so far are kept in it and
how many were dropped: it has a part for attributes (`KeepsAttributes`), one for each of the two kinds of
events, which share a list but not a limit (`KeepsEvents`), and one for links (`KeepsLinks`).

Every change keeps the accounts (`SpanRecord.Accounts.apply`).  What makes this so is that a record looks
only at what it keeps: a key is known to it exactly if it is among the first ones that were set, and its
counts are full exactly if as many events of the kind were offered as there is room for.
-/

namespace Telemetry

/-! ### Accepting what comes -/

/-- The elements of a list that are accepted; what came before them is looked at, accepted or not. -/
def accepted {α : Type} (accepts : List α → α → Bool) (before : List α) : List α → List α
  | [] => []
  | x :: rest =>
    if accepts before x then x :: accepted accepts (before ++ [x]) rest
    else accepted accepts (before ++ [x]) rest

/-- One more element is accepted, or it is not. -/
theorem accepted_concat {α : Type} (accepts : List α → α → Bool) (before l : List α) (x : α) :
    accepted accepts before (l ++ [x]) =
      accepted accepts before l ++ if accepts (before ++ l) x then [x] else [] := by
  induction l generalizing before with
  | nil => simp [accepted]
  | cons y rest ih =>
    have hbefore : before ++ [y] ++ rest = before ++ y :: rest := by simp
    simp only [List.cons_append, accepted, ih, hbefore]
    split <;> rfl

theorem length_accepted_le {α : Type} (accepts : List α → α → Bool) (before l : List α) :
    (accepted accepts before l).length ≤ l.length := by
  induction l generalizing before with
  | nil => exact Nat.le_refl _
  | cons x rest ih =>
    have hrest := ih (before ++ [x])
    simp only [accepted, List.length_cons]
    split
    · exact Nat.succ_le_succ hrest
    · exact Nat.le_succ_of_le hrest

/-! ### Attributes -/

section Attributes

variable {max : Nat} {offered : List Attribute} {a : Attribute}

/-- The first `max` keys that were set, in the order in which they came. -/
def heldKeys (max : Nat) (offered : List Attribute) : List String :=
  (offered.map (·.key)).eraseDups.take max

/-- Whether the key of `a` is not held when it is set. -/
def isUnheld (max : Nat) (before : List Attribute) (a : Attribute) : Bool :=
  a.key ∉ heldKeys max before

/-- The last attribute with the given key. -/
def lastWith (offered : List Attribute) (key : String) : Option Attribute :=
  (offered.filter (·.key = key)).getLast?

/-- What is kept of the attributes that were set, and how many were dropped. -/
structure KeepsAttributes (max : Nat) (offered kept : List Attribute) (dropped : Nat) : Prop where
  /-- The keys are the first ones that were set. -/
  keys : kept.map (·.key) = heldKeys max offered
  /-- Each has the value that was set last for it. -/
  values : ∀ a ∈ kept, lastWith offered a.key = some a
  /-- All attributes are counted whose key was not held when they were set. -/
  counted : kept.length + dropped = (accepted (isUnheld max) [] offered).length

theorem nodup_heldKeys (max : Nat) (offered : List Attribute) : (heldKeys max offered).Nodup :=
  (nodup_eraseDups _).sublist (List.take_sublist _ _)

theorem mem_keys_of_mem_heldKeys {key : String} (h : key ∈ heldKeys max offered) :
    key ∈ offered.map (·.key) :=
  List.mem_eraseDups.1 (List.mem_of_mem_take h)

/-- A key that was set before is held or not as it was. -/
theorem heldKeys_concat_of_mem (h : a.key ∈ offered.map (·.key)) :
    heldKeys max (offered ++ [a]) = heldKeys max offered := by
  rw [heldKeys, List.map_append, List.map_singleton, eraseDups_concat, if_pos h, List.append_nil]
  rfl

/-- When all room is taken, no key is held any more. -/
theorem heldKeys_concat_of_le (h : max ≤ (heldKeys max offered).length) :
    heldKeys max (offered ++ [a]) = heldKeys max offered := by
  have hle : max ≤ (offered.map (·.key)).eraseDups.length := by
    rw [heldKeys, List.length_take] at h
    exact h.trans (Nat.min_le_right _ _)
  rw [heldKeys, List.map_append, List.map_singleton, eraseDups_concat,
    List.take_append_of_le_length hle]
  rfl

/-- While there is room, each new key is held. -/
theorem heldKeys_concat_of_lt (hnew : a.key ∉ heldKeys max offered)
    (h : (heldKeys max offered).length < max) :
    heldKeys max (offered ++ [a]) = heldKeys max offered ++ [a.key] := by
  have hlt : (offered.map (·.key)).eraseDups.length < max := by
    rw [heldKeys, List.length_take] at h
    omega
  have hall : heldKeys max offered = (offered.map (·.key)).eraseDups :=
    List.take_of_length_le hlt.le
  rw [hall, List.mem_eraseDups] at hnew
  rw [hall, heldKeys, List.map_append, List.map_singleton, eraseDups_concat, if_neg hnew,
    List.take_of_length_le]
  simpa using hlt

theorem lastWith_concat (offered : List Attribute) (a : Attribute) (key : String) :
    lastWith (offered ++ [a]) key = if a.key = key then some a else lastWith offered key := by
  rw [lastWith, List.filter_append]
  split
  next h => rw [List.filter_cons_of_pos (by simpa using h), List.filter_nil, List.getLast?_concat]
  next h =>
    rw [List.filter_cons_of_neg (by simpa using h), List.filter_nil, List.append_nil]
    rfl

end Attributes

namespace KeepsAttributes

variable {max : Nat} {offered kept : List Attribute} {dropped : Nat} {a : Attribute}

theorem nil (max : Nat) : KeepsAttributes max [] [] 0 :=
  ⟨List.take_nil.symm, by simp, rfl⟩

/-- The record knows a key exactly if it is held. -/
theorem known_iff (h : KeepsAttributes max offered kept dropped) :
    (kept.any fun b => b.key = a.key) = true ↔ a.key ∈ heldKeys max offered := by
  rw [← h.keys]
  simp

theorem length_eq (h : KeepsAttributes max offered kept dropped) :
    kept.length = (heldKeys max offered).length := by
  rw [← h.keys, List.length_map]

/-- An attribute whose key is not held changes no value. -/
theorem lastWith_of_unheld (h : KeepsAttributes max offered kept dropped)
    (hunheld : a.key ∉ heldKeys max offered) {b : Attribute} (hb : b ∈ kept) :
    lastWith (offered ++ [a]) b.key = some b := by
  rw [lastWith_concat, if_neg, h.values b hb]
  intro heq
  exact hunheld (heq ▸ h.keys ▸ List.mem_map_of_mem hb)

theorem counted_concat (h : KeepsAttributes max offered kept dropped) (a : Attribute) :
    (accepted (isUnheld max) [] (offered ++ [a])).length =
      kept.length + dropped + if a.key ∈ heldKeys max offered then 0 else 1 := by
  rw [accepted_concat, List.nil_append, List.length_append, h.counted, isUnheld]
  by_cases hheld : a.key ∈ heldKeys max offered <;> simp [hheld]

/-- A known key gets the new value. -/
theorem replace (h : KeepsAttributes max offered kept dropped)
    (hheld : a.key ∈ heldKeys max offered) :
    KeepsAttributes max (offered ++ [a]) (SpanRecord.replaceAttribute a kept) dropped := by
  constructor
  · rw [heldKeys_concat_of_mem (mem_keys_of_mem_heldKeys hheld), ← h.keys,
      SpanRecord.replaceAttribute, List.map_map]
    refine List.map_congr_left fun b _ => ?_
    simp only [Function.comp_apply]
    split <;> rfl
  · intro b' hb'
    obtain ⟨b, hb, rfl⟩ := List.mem_map.1 hb'
    rw [lastWith_concat]
    split
    next heq =>
      rw [if_pos heq.symm]
      exact congrArg (fun key => some (Attribute.mk key a.value)) heq.symm
    next hne =>
      rw [if_neg (Ne.symm hne)]
      exact h.values b hb
  · rw [h.counted_concat, if_pos hheld, SpanRecord.replaceAttribute, List.length_map, Nat.add_zero]

/-- A new key is added while there is room. -/
theorem add (h : KeepsAttributes max offered kept dropped)
    (hunheld : a.key ∉ heldKeys max offered) (hroom : kept.length < max) :
    KeepsAttributes max (offered ++ [a]) (kept ++ [a]) dropped := by
  constructor
  · rw [heldKeys_concat_of_lt hunheld (h.length_eq ▸ hroom), List.map_append, h.keys]
    rfl
  · intro b hb
    rcases List.mem_append.1 hb with hb | hb
    · exact h.lastWith_of_unheld hunheld hb
    · rw [List.mem_singleton.1 hb, lastWith_concat, if_pos rfl]
  · rw [h.counted_concat, if_neg hunheld, List.length_append, List.length_singleton]
    omega

/-- A new key is dropped when there is no room. -/
theorem drop (h : KeepsAttributes max offered kept dropped)
    (hunheld : a.key ∉ heldKeys max offered) (hfull : max ≤ kept.length) :
    KeepsAttributes max (offered ++ [a]) kept (dropped + 1) := by
  constructor
  · rw [heldKeys_concat_of_le (h.length_eq ▸ hfull), h.keys]
  · intro b hb
    exact h.lastWith_of_unheld hunheld hb
  · rw [h.counted_concat, if_neg hunheld]
    rfl

theorem length_le (h : KeepsAttributes max offered kept dropped) : kept.length ≤ max := by
  rw [h.length_eq, heldKeys, List.length_take]
  exact Nat.min_le_left _ _

theorem nodup (h : KeepsAttributes max offered kept dropped) : (kept.map (·.key)).Nodup :=
  h.keys ▸ nodup_heldKeys max offered

end KeepsAttributes

/-! ### Events -/

/-- The greatest number of events of the kind of `e`. -/
def SpanLimits.ofEvent (limits : SpanLimits) (e : Event) : Nat :=
  if e.isNote then limits.notes else limits.messages

/-- How many events are of one kind, notes or messages. -/
def countKind (note : Bool) (events : List TimedEvent) : Nat :=
  events.countP (·.event.isNote = note)

theorem countKind_concat (note : Bool) (events : List TimedEvent) (e : TimedEvent) :
    countKind note (events ++ [e]) = countKind note events + if e.event.isNote = note then 1 else 0 := by
  rw [countKind, List.countP_append, List.countP_singleton]
  simp only [decide_eq_true_eq]
  rfl

/-- Whether fewer events of the kind of `e` came before it than there is room for. -/
def SpanLimits.fits (limits : SpanLimits) (before : List TimedEvent) (e : TimedEvent) : Bool :=
  countKind e.event.isNote before < limits.ofEvent e.event

/-- How many events of one kind are kept and dropped. -/
structure KeepsKind (note : Bool) (max : Nat) (offered kept : List TimedEvent)
    (count dropped : Nat) : Prop where
  /-- The events of the kind that are kept are counted. -/
  kept : countKind note kept = count
  /-- They are as many as there is room for, if as many were offered. -/
  full : count = min max (countKind note offered)
  /-- Each event of the kind that was offered is kept or counted as dropped. -/
  counted : count + dropped = countKind note offered

namespace KeepsKind

variable {note : Bool} {max : Nat} {offered kept kept' : List TimedEvent} {count dropped : Nat}
  {e : TimedEvent}

theorem nil (note : Bool) (max : Nat) : KeepsKind note max [] [] 0 0 :=
  ⟨rfl, (Nat.min_zero max).symm, rfl⟩

/-- There is room for one more event exactly if the limit was not reached by what was offered. -/
theorem lt_iff (h : KeepsKind note max offered kept count dropped) :
    count < max ↔ countKind note offered < max := by
  have hfull := h.full
  omega

theorem keep (h : KeepsKind note max offered kept count dropped) (hkind : e.event.isNote = note)
    (hroom : count < max) :
    KeepsKind note max (offered ++ [e]) (kept ++ [e]) (count + 1) dropped := by
  obtain ⟨hkept, hfull, hcounted⟩ := h
  constructor <;> rw [countKind_concat, if_pos hkind] <;> omega

theorem drop (h : KeepsKind note max offered kept count dropped) (hkind : e.event.isNote = note)
    (hroom : ¬count < max) : KeepsKind note max (offered ++ [e]) kept count (dropped + 1) := by
  obtain ⟨hkept, hfull, hcounted⟩ := h
  refine ⟨hkept, ?_, ?_⟩ <;> rw [countKind_concat, if_pos hkind] <;> omega

/-- Events of the other kind do not count, kept or not. -/
theorem other (h : KeepsKind note max offered kept count dropped) (hkind : e.event.isNote ≠ note)
    (hkept' : kept' = kept ∨ kept' = kept ++ [e]) :
    KeepsKind note max (offered ++ [e]) kept' count dropped := by
  have hsame : ∀ events, countKind note (events ++ [e]) = countKind note events := by
    intro events
    rw [countKind_concat, if_neg hkind, Nat.add_zero]
  obtain ⟨hkept, hfull, hcounted⟩ := h
  refine ⟨?_, by rw [hsame, hfull], by rw [hsame, hcounted]⟩
  rcases hkept' with rfl | rfl
  · exact hkept
  · rw [hsame, hkept]

end KeepsKind

/-- What is kept of the events that were offered, and how many were dropped. -/
structure KeepsEvents (limits : SpanLimits) (offered : List TimedEvent) (r : SpanRecord) : Prop where
  /-- Those are kept, in the order in which they came, of whose kind there were not too many. -/
  events : r.events = accepted limits.fits [] offered
  notes : KeepsKind true limits.notes offered r.events r.noteCount r.dropped.notes
  messages : KeepsKind false limits.messages offered r.events r.messageCount r.dropped.messages

namespace KeepsEvents

variable {limits : SpanLimits} {offered : List TimedEvent} {r : SpanRecord}

/-- What fits is kept. -/
theorem keep (h : KeepsEvents limits offered r) {e : TimedEvent}
    (hfits : limits.fits offered e = true) :
    r.events ++ [e] = accepted limits.fits [] (offered ++ [e]) := by
  rw [accepted_concat, List.nil_append, if_pos hfits, h.events]

/-- What does not fit is not kept. -/
theorem drop (h : KeepsEvents limits offered r) {e : TimedEvent}
    (hfits : ¬limits.fits offered e = true) :
    r.events = accepted limits.fits [] (offered ++ [e]) := by
  rw [accepted_concat, List.nil_append, if_neg hfits, List.append_nil, h.events]

/-- A record looks at its count of notes to know whether a note fits. -/
theorem addNote (h : KeepsEvents limits offered r) (now : Timestamp) (text : String)
    (attributes : List Attribute) :
    KeepsEvents limits
      (offered ++ [⟨now, .note text (attributes.map (·.cutTo limits.textLength))⟩])
      (r.addNote limits now text attributes) := by
  have hfits : limits.fits offered ⟨now, .note text (attributes.map (·.cutTo limits.textLength))⟩ =
      true ↔ r.noteCount < limits.notes := decide_eq_true_iff.trans h.notes.lt_iff.symm
  have hother : (Event.note text (attributes.map (·.cutTo limits.textLength))).isNote ≠ false :=
    Bool.false_ne_true.symm
  unfold SpanRecord.addNote
  split
  next hroom =>
    exact ⟨h.keep (hfits.2 hroom), h.notes.keep rfl hroom, h.messages.other hother (.inr rfl)⟩
  next hroom =>
    exact ⟨h.drop (mt hfits.1 hroom), h.notes.drop rfl hroom, h.messages.other hother (.inl rfl)⟩

/-- A record looks at its count of messages to know whether a message fits. -/
theorem addMessage (h : KeepsEvents limits offered r) (now : Timestamp) (event : MessageEvent) :
    KeepsEvents limits (offered ++ [⟨now, .message event⟩]) (r.addMessage limits now event) := by
  have hfits : limits.fits offered ⟨now, .message event⟩ = true ↔ r.messageCount < limits.messages :=
    decide_eq_true_iff.trans h.messages.lt_iff.symm
  have hother : (Event.message event).isNote ≠ true := Bool.false_ne_true
  unfold SpanRecord.addMessage
  split
  next hroom =>
    exact ⟨h.keep (hfits.2 hroom), h.notes.other hother (.inr rfl), h.messages.keep rfl hroom⟩
  next hroom =>
    exact ⟨h.drop (mt hfits.1 hroom), h.notes.other hother (.inl rfl), h.messages.drop rfl hroom⟩

end KeepsEvents

/-! ### Links -/

/-- What is kept of the links that were offered, and how many were dropped. -/
structure KeepsLinks (max : Nat) (offered kept : List Link) (dropped : Nat) : Prop where
  /-- The first ones are kept. -/
  links : kept = offered.take max
  /-- Each link is kept or counted as dropped. -/
  counted : kept.length + dropped = offered.length

namespace KeepsLinks

variable {max : Nat} {offered kept : List Link} {dropped : Nat}

theorem nil (max : Nat) : KeepsLinks max [] [] 0 := ⟨List.take_nil.symm, rfl⟩

theorem length_eq (h : KeepsLinks max offered kept dropped) : kept.length = min max offered.length := by
  rw [h.links, List.length_take]

theorem keep (h : KeepsLinks max offered kept dropped) (hroom : kept.length < max) (link : Link) :
    KeepsLinks max (offered ++ [link]) (kept ++ [link]) dropped := by
  obtain ⟨hlinks, hcounted⟩ := h
  have hlt : offered.length < max := by
    rw [hlinks, List.length_take] at hroom
    omega
  constructor
  · rw [hlinks, List.take_of_length_le hlt.le, List.take_of_length_le]
    simpa using hlt
  · simp only [List.length_append, List.length_singleton]
    omega

theorem drop (h : KeepsLinks max offered kept dropped) (hfull : ¬kept.length < max) (link : Link) :
    KeepsLinks max (offered ++ [link]) kept (dropped + 1) := by
  obtain ⟨hlinks, hcounted⟩ := h
  have hle : max ≤ offered.length := by
    rw [hlinks, List.length_take] at hfull
    omega
  constructor
  · rw [hlinks, List.take_append_of_le_length hle]
  · rw [List.length_append, List.length_singleton]
    omega

end KeepsLinks

/-! ### Records -/

/-- A change to what is recorded on a span, and when it was made. -/
structure TimedChange where
  time : Timestamp
  change : SpanChange

/-- What changes offer to a record, in order, with long texts cut. -/
structure Offers where
  /-- The attributes that are set. -/
  attributes : List Attribute
  /-- The notes and messages. -/
  events : List TimedEvent
  /-- The links. -/
  links : List Link

namespace Offers

/-- What is offered with one more change. -/
def add (limits : SpanLimits) (o : Offers) (c : TimedChange) : Offers :=
  let cut (a : Attribute) : Attribute := a.cutTo limits.textLength
  match c.change with
  | .attribute a => { o with attributes := o.attributes ++ [cut a] }
  | .note text attributes =>
    { o with events := o.events ++ [⟨c.time, .note text (attributes.map cut)⟩] }
  | .message event => { o with events := o.events ++ [⟨c.time, .message event⟩] }
  | .link link =>
    { o with links := o.links ++ [{ link with attributes := link.attributes.map cut }] }
  | .status _ => o
  | .name _ => o
  | .failure _ => o

/-- What a sequence of changes offers. -/
def ofCalls (limits : SpanLimits) (calls : List TimedChange) : Offers :=
  calls.foldl (add limits) ⟨[], [], []⟩

theorem ofCalls_concat (limits : SpanLimits) (calls : List TimedChange) (c : TimedChange) :
    ofCalls limits (calls ++ [c]) = (ofCalls limits calls).add limits c :=
  List.foldl_concat _ _ _ _

/-- How many things are offered. -/
def size (o : Offers) : Nat := o.attributes.length + o.events.length + o.links.length

/-- A change offers one thing at most. -/
theorem size_ofCalls_le (limits : SpanLimits) (calls : List TimedChange) :
    (ofCalls limits calls).size ≤ calls.length := by
  induction calls using List.reverseRecOn with
  | nil => exact Nat.le_refl 0
  | append_singleton calls c ih =>
    obtain ⟨time, change⟩ := c
    rw [ofCalls_concat, List.length_append, List.length_singleton]
    cases change <;> simp only [add, size, List.length_append, List.length_singleton] at ih ⊢ <;> omega

end Offers

namespace SpanRecord

/-- What is kept in a record of what was offered to it, and how much was dropped. -/
structure Accounts (limits : SpanLimits) (offered : Offers) (r : SpanRecord) : Prop where
  attributes : KeepsAttributes limits.attributes offered.attributes r.attributes r.dropped.attributes
  events : KeepsEvents limits offered.events r
  links : KeepsLinks limits.links offered.links r.links r.dropped.links

namespace Accounts

variable {limits : SpanLimits} {offered : Offers} {r : SpanRecord}

/-- Nothing is kept in the beginning. -/
theorem start (limits : SpanLimits) (name : String) (kind : SpanKind) (now : Timestamp)
    (sameProcess : Option Bool) :
    (SpanRecord.start name kind now sameProcess).Accounts limits (.ofCalls limits []) :=
  ⟨.nil _, ⟨rfl, .nil _ _, .nil _ _⟩, .nil _⟩

theorem addChild (h : r.Accounts limits offered) : r.addChild.Accounts limits offered :=
  ⟨h.attributes, { h.events with }, h.links⟩

theorem setAttribute (h : r.Accounts limits offered) (now : Timestamp) (a : Attribute) :
    (r.setAttribute limits a).Accounts limits (offered.add limits ⟨now, .attribute a⟩) := by
  unfold SpanRecord.setAttribute
  dsimp only
  split
  next hknown =>
    exact ⟨h.attributes.replace (h.attributes.known_iff.1 hknown), { h.events with }, h.links⟩
  next hnew =>
    have hunheld := mt h.attributes.known_iff.2 hnew
    split
    next hroom => exact ⟨h.attributes.add hunheld hroom, { h.events with }, h.links⟩
    next hfull =>
      exact ⟨h.attributes.drop hunheld (Nat.not_lt.1 hfull), { h.events with }, h.links⟩

theorem addNote (h : r.Accounts limits offered) (now : Timestamp) (text : String)
    (attributes : List Attribute) :
    (r.addNote limits now text attributes).Accounts limits
      (offered.add limits ⟨now, .note text attributes⟩) := by
  have hevents := h.events.addNote now text attributes
  unfold SpanRecord.addNote at hevents ⊢
  split at hevents
  next hroom => rw [if_pos hroom]; exact ⟨h.attributes, hevents, h.links⟩
  next hfull => rw [if_neg hfull]; exact ⟨h.attributes, hevents, h.links⟩

theorem addMessage (h : r.Accounts limits offered) (now : Timestamp) (event : MessageEvent) :
    (r.addMessage limits now event).Accounts limits (offered.add limits ⟨now, .message event⟩) := by
  have hevents := h.events.addMessage now event
  unfold SpanRecord.addMessage at hevents ⊢
  split at hevents
  next hroom => rw [if_pos hroom]; exact ⟨h.attributes, hevents, h.links⟩
  next hfull => rw [if_neg hfull]; exact ⟨h.attributes, hevents, h.links⟩

theorem addLink (h : r.Accounts limits offered) (now : Timestamp) (link : Link) :
    (r.addLink limits link).Accounts limits (offered.add limits ⟨now, .link link⟩) := by
  unfold SpanRecord.addLink
  split
  next hroom => exact ⟨h.attributes, { h.events with }, h.links.keep hroom _⟩
  next hfull => exact ⟨h.attributes, { h.events with }, h.links.drop hfull _⟩

/-- **A change keeps the accounts.** -/
theorem apply (h : r.Accounts limits offered) (now : Timestamp) (c : SpanChange) :
    (c.apply limits now r).Accounts limits (offered.add limits ⟨now, c⟩) := by
  cases c with
  | «attribute» a => exact h.setAttribute now a
  | note text attributes => exact h.addNote now text attributes
  | message event => exact h.addMessage now event
  | link link => exact h.addLink now link
  | status status => exact ⟨h.attributes, { h.events with }, h.links⟩
  | name name => exact ⟨h.attributes, { h.events with }, h.links⟩
  | failure message => exact ⟨h.attributes, { h.events with }, h.links⟩

end Accounts

/-- The counts in a record. -/
def counts (r : SpanRecord) : List Nat :=
  [r.noteCount, r.messageCount, r.dropped.attributes, r.dropped.notes, r.dropped.messages,
    r.dropped.links]

/-- A record is within its limits, and its counts are within the number of changes made to it. -/
structure Bounded (limits : SpanLimits) (calls : Nat) (r : SpanRecord) : Prop where
  attributes : r.attributes.length ≤ limits.attributes
  notes : countKind true r.events ≤ limits.notes
  messages : countKind false r.events ≤ limits.messages
  links : r.links.length ≤ limits.links
  /-- Each key is there once. -/
  nodup : (r.attributes.map (·.key)).Nodup
  /-- As long as there are fewer than `2 ^ 32` changes, 32 bits are enough for each count. -/
  counts : ∀ n ∈ r.counts, n ≤ calls

end SpanRecord

theorem KeepsKind.bounded {note : Bool} {max : Nat} {offered kept : List TimedEvent}
    {count dropped : Nat} (h : KeepsKind note max offered kept count dropped) :
    countKind note kept ≤ max ∧ count ≤ offered.length ∧ dropped ≤ offered.length := by
  obtain ⟨hkept, hfull, hcounted⟩ := h
  have hle : countKind note offered ≤ offered.length := List.countP_le_length
  omega

/-- **What the accounts imply.** -/
theorem SpanRecord.Accounts.bounded {limits : SpanLimits} {calls : List TimedChange}
    {r : SpanRecord} (h : r.Accounts limits (.ofCalls limits calls)) :
    r.Bounded limits calls.length := by
  obtain ⟨hattributes, hevents, hlinks⟩ := h
  have hsize := Offers.size_ofCalls_le limits calls
  have hset := length_accepted_le (isUnheld limits.attributes) [] (Offers.ofCalls limits calls).attributes
  have hcounted := hattributes.counted
  have hcounted' := hlinks.counted
  obtain ⟨hnotes, hnoteCount, hdroppedNotes⟩ := hevents.notes.bounded
  obtain ⟨hmessages, hmessageCount, hdroppedMessages⟩ := hevents.messages.bounded
  refine ⟨hattributes.length_le, hnotes, hmessages, ?_, hattributes.nodup, ?_⟩
  · rw [hlinks.length_eq]
    exact Nat.min_le_left _ _
  · unfold Offers.size at hsize
    simp only [SpanRecord.counts, List.forall_mem_cons, List.not_mem_nil, false_imp_iff,
      implies_true, and_true]
    omega

end Telemetry
