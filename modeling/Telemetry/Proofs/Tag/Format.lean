import Telemetry.Proofs.Text.Utf8
import Telemetry.Tag.Codec

/-!
# The format of serialized tag maps

What the bytes of a serialized tag map look like, said without the reader: records in which each text
stands behind a length in groups of seven bits. What a length means is left open, since the reader keeps
its lowest 32 bits only (`wrapped`): `decode_eq_ok_iff` says that it accepts exactly the bytes of this
form, lengths taken that way, and that the last record of a key gives its value. A form that wraps is
thus read where the full value of the groups would run past the end of the input, and
`readsFormat_iff` says that nothing else is read in another way than the full values ask for.
-/

namespace Telemetry

theorem TagValue.narrow_of_valid {text : String} (h : TagValue.Valid text) :
    ∀ c ∈ text.toList, Text.Utf8.Narrow c := fun c hc => by
  have hprint := List.all_eq_true.1 h.2 c hc
  simp only [isPrintableAscii, Bool.and_eq_true, decide_eq_true_eq] at hprint
  exact ⟨by omega, by omega⟩

theorem TagKey.ofString_eq_ok_iff {text : String} {key : TagKey} :
    TagKey.ofString text = .ok key ↔ text = key.text := by
  constructor
  · intro h
    unfold ofString ofString? at h
    split at h
    next hkey =>
      split at hkey
      · cases hkey
        cases h
        rfl
      · cases hkey
    next => cases h
  · rintro rfl
    rw [ofString, ofString?_text]

theorem TagValue.ofString_eq_ok_iff {text : String} {value : TagValue} :
    TagValue.ofString text = .ok value ↔ text = value.text := by
  constructor
  · intro h
    unfold ofString ofString? at h
    split at h
    next hvalue =>
      split at hvalue
      · cases hvalue
        cases h
        rfl
      · cases hvalue
    next => cases h
  · rintro rfl
    rw [ofString, ofString?_text]

namespace TagMap

/-! ### Lengths -/

/-- The number that groups of seven bits spell, the lowest group first. -/
def groupsValue : List UInt8 → Nat
  | [] => 0
  | b :: rest => b.toNat % 0x80 + 0x80 * groupsValue rest

/-- The bytes of one length: the top bit is set in all of them but the last. -/
def IsGroups : List UInt8 → Prop
  | [] => False
  | [b] => b.toNat < 0x80
  | b :: rest => 0x80 ≤ b.toNat ∧ IsGroups rest

/-- What a length of 32 bits keeps of a number. -/
def wrapped (n : Nat) : Nat := n % Nat.pow 2 32

theorem isGroups_cons {b : UInt8} {rest : List UInt8} :
    IsGroups (b :: rest) ↔ rest = [] ∧ b.toNat < 0x80 ∨ 0x80 ≤ b.toNat ∧ IsGroups rest := by
  cases rest with
  | nil => simp [IsGroups]
  | cons c rest => simp [IsGroups]

theorem groupsValue_cons_of_le {b : UInt8} (hb : 0x80 ≤ b.toNat) (rest : List UInt8) :
    groupsValue (b :: rest) = b.toNat - 0x80 + 0x80 * groupsValue rest := by
  have hlt := b.toNat_lt
  have hmod : b.toNat % 0x80 = b.toNat - 0x80 := by omega
  rw [groupsValue, hmod]

/-- The groups of a length are read up to its end. -/
theorem readGroups_append {groups : List UInt8} (hgroups : IsGroups groups) {limit : Nat}
    (hlength : groups.length ≤ limit) (rest : List UInt8) :
    readGroups limit (groups ++ rest) = some (groupsValue groups, rest) := by
  induction groups generalizing limit with
  | nil => exact hgroups.elim
  | cons b groups ih =>
    obtain ⟨limit, rfl⟩ := Nat.exists_eq_add_one.2 (Nat.zero_lt_of_lt hlength)
    rw [List.cons_append, readGroups]
    rcases isGroups_cons.1 hgroups with ⟨rfl, hb⟩ | ⟨hb, hgroups⟩
    · rw [if_pos hb, List.nil_append, groupsValue, groupsValue, Nat.mod_eq_of_lt hb]
      rfl
    · rw [if_neg (Nat.not_lt.2 hb), ih hgroups (Nat.le_of_succ_le_succ hlength), Option.map_some,
        groupsValue_cons_of_le hb]

/-- What is read as a length are the groups of one. -/
theorem exists_groups_of_readGroups {limit : Nat} {bytes rest : List UInt8} {n : Nat}
    (h : readGroups limit bytes = some (n, rest)) :
    ∃ groups, IsGroups groups ∧ groups.length ≤ limit ∧ n = groupsValue groups ∧
      bytes = groups ++ rest := by
  fun_induction readGroups limit bytes generalizing n with
  | case1 => cases h
  | case2 => cases h
  | case3 limit b tail hb =>
    cases h
    exact ⟨[b], hb, by simp, by simp [groupsValue, Nat.mod_eq_of_lt hb], rfl⟩
  | case4 limit b tail hb ih =>
    obtain ⟨⟨m, rest'⟩, hread, heq⟩ := Option.map_eq_some_iff.1 h
    cases heq
    obtain ⟨groups, hgroups, hlength, rfl, rfl⟩ := ih hread
    have hb := Nat.not_lt.1 hb
    exact ⟨b :: groups, isGroups_cons.2 (.inr ⟨hb, hgroups⟩), Nat.succ_le_succ hlength,
      (groupsValue_cons_of_le hb groups).symm, rfl⟩

theorem readLength_eq_ok_iff {bytes rest : List UInt8} {n : Nat} :
    readLength bytes = .ok (n, rest) ↔
      ∃ groups, IsGroups groups ∧ groups.length ≤ 5 ∧ n = wrapped (groupsValue groups) ∧
        bytes = groups ++ rest := by
  constructor
  · intro h
    unfold readLength at h
    split at h
    next m tail hread =>
      cases h
      obtain ⟨groups, hgroups, hlength, rfl, rfl⟩ := exists_groups_of_readGroups hread
      exact ⟨groups, hgroups, hlength, rfl, rfl⟩
    next => cases h
  · rintro ⟨groups, hgroups, hlength, rfl, rfl⟩
    rw [readLength, readGroups_append hgroups hlength]
    rfl

/-- Where a length ends is seen from its bytes. -/
theorem IsGroups.append_inj {g₁ g₂ r₁ r₂ : List UInt8} (h₁ : IsGroups g₁) (h₂ : IsGroups g₂)
    (h : g₁ ++ r₁ = g₂ ++ r₂) : g₁ = g₂ ∧ r₁ = r₂ := by
  induction g₁ generalizing g₂ with
  | nil => exact h₁.elim
  | cons b g₁ ih =>
    cases g₂ with
    | nil => exact h₂.elim
    | cons b' g₂ =>
      obtain ⟨rfl, htail⟩ := List.cons.inj h
      rcases isGroups_cons.1 h₁ with ⟨rfl, hb⟩ | ⟨hb, h₁⟩ <;>
        rcases isGroups_cons.1 h₂ with ⟨rfl, hb'⟩ | ⟨hb', h₂⟩
      · exact ⟨rfl, htail⟩
      · exact absurd hb (Nat.not_lt.2 hb')
      · exact absurd hb' (Nat.not_lt.2 hb)
      · obtain ⟨rfl, hrest⟩ := ih h₁ h₂ htail
        exact ⟨rfl, hrest⟩

/-! ### Texts -/

/-- The groups announce the text: their value, taken as `meaning` says, is its size. -/
structure Announces (meaning : Nat → Nat) (groups : List UInt8) (text : String) : Prop where
  /-- They are the bytes of one length. -/
  isGroups : IsGroups groups
  /-- A length takes at most five bytes. -/
  length_le : groups.length ≤ 5
  /-- The length is that of the text. -/
  size_eq : meaning (groupsValue groups) = text.utf8ByteSize

/-- **A tag text is read from exactly the bytes that spell it behind a length that announces it.** -/
theorem readText_eq_ok_iff {bytes rest : List UInt8} {text : String}
    (htext : TagValue.Valid text) :
    readText bytes = .ok (text, rest) ↔
      ∃ groups, Announces wrapped groups text ∧ bytes = groups ++ (Text.Utf8.encode text ++ rest) := by
  have hnarrow := TagValue.narrow_of_valid htext
  constructor
  · intro h
    unfold readText at h
    split at h
    · cases h
    next length tail hread =>
      split at h
      · cases h
      next hle =>
        split at h
        next text' htake =>
          cases h
          obtain ⟨groups, hgroups, hlength, rfl, rfl⟩ := readLength_eq_ok_iff.1 hread
          have htake := (Text.Utf8.decode_eq_ok_iff hnarrow).1 htake
          refine ⟨groups, ⟨hgroups, hlength, ?_⟩, ?_⟩
          · rw [← Text.Utf8.length_encode, ← htake, List.length_take_of_le (Nat.not_lt.1 hle)]
          · rw [← htake, List.take_append_drop]
        next => cases h
  · rintro ⟨groups, hgroups, rfl⟩
    have hsize : wrapped (groupsValue groups) = (Text.Utf8.encode text).length := by
      rw [hgroups.size_eq, Text.Utf8.length_encode]
    rw [readText, readLength_eq_ok_iff.2 ⟨groups, hgroups.isGroups, hgroups.length_le, rfl, rfl⟩]
    dsimp only
    rw [hsize, if_neg (by simp), List.take_left, List.drop_left,
      (Text.Utf8.decode_eq_ok_iff hnarrow).2 rfl]

/-! ### Records -/

/-- What the record of a tag holds: each text, and the bytes of the length before it. -/
structure Record where
  /-- The length of the key. -/
  keyGroups : List UInt8
  /-- The key. -/
  key : TagKey
  /-- The length of the value. -/
  valueGroups : List UInt8
  /-- The value. -/
  value : TagValue

namespace Record

/-- The bytes of the record. -/
def bytes (r : Record) : List UInt8 :=
  tagRecord :: (r.keyGroups ++ (Text.Utf8.encode r.key.text ++
    (r.valueGroups ++ Text.Utf8.encode r.value.text)))

theorem bytes_append (r : Record) (rest : List UInt8) :
    r.bytes ++ rest = tagRecord :: (r.keyGroups ++ (Text.Utf8.encode r.key.text ++
      (r.valueGroups ++ (Text.Utf8.encode r.value.text ++ rest)))) := by
  simp [bytes]

/-- The lengths are those of the texts. -/
structure WellFormed (meaning : Nat → Nat) (r : Record) : Prop where
  /-- The first length is that of the key. -/
  key : Announces meaning r.keyGroups r.key.text
  /-- The second length is that of the value. -/
  value : Announces meaning r.valueGroups r.value.text

end Record

/-- The tags of the records, bound one after the other onto `tags`. -/
def bindAll (tags : TagMap) (records : List Record) : TagMap :=
  records.foldl (fun tags r => tags.insert r.key r.value) tags

/-- The bytes are a serialized tag map with the given records, and lengths mean what `meaning` says. -/
structure Serialized (meaning : Nat → Nat) (bytes : List UInt8) (records : List Record) : Prop where
  /-- There are not too many bytes. -/
  size_le : bytes.length ≤ maxEncodedSize
  /-- Each text has the length that stands before it. -/
  wellFormed : ∀ r ∈ records, r.WellFormed meaning
  /-- There is nothing at all, or the version and the records up to the end or to a byte that starts no
  record of a tag. -/
  layout : bytes = [] ∧ records = [] ∨
    ∃ tail, bytes = formatVersion :: (records.flatMap Record.bytes ++ tail) ∧
      tail.head? ≠ some tagRecord

/-! ### Reading records -/

/-- Reading a record binds its tag and goes on behind it. -/
theorem readTags_of_readText {tags : TagMap} {tail afterKey rest : List UInt8} {key : TagKey}
    {value : TagValue} (hkey : readText tail = .ok (key.text, afterKey))
    (hvalue : readText afterKey = .ok (value.text, rest)) :
    readTags tags (tagRecord :: tail) = readTags (tags.insert key value) rest := by
  rw [readTags, if_neg (by simp)]
  split
  next e h => rw [hkey] at h; cases h
  next h =>
    rw [hkey] at h
    cases h
    split
    next e h => rw [hvalue] at h; cases h
    next h =>
      rw [hvalue] at h
      cases h
      rw [TagKey.ofString_eq_ok_iff.2 rfl, TagValue.ofString_eq_ok_iff.2 rfl]

theorem readTags_bytes_append {r : Record} (hr : r.WellFormed wrapped) (tags : TagMap)
    (rest : List UInt8) :
    readTags tags (r.bytes ++ rest) = readTags (tags.insert r.key r.value) rest := by
  rw [r.bytes_append]
  exact readTags_of_readText ((readText_eq_ok_iff r.key.valid.2).2 ⟨_, hr.key, rfl⟩)
    ((readText_eq_ok_iff r.value.valid).2 ⟨_, hr.value, rfl⟩)

/-- What is read as a record has the form of one. -/
theorem exists_record_of_readTags {tags m : TagMap} {tail : List UInt8}
    (h : readTags tags (tagRecord :: tail) = .ok m) :
    ∃ r rest, Record.WellFormed wrapped r ∧ tagRecord :: tail = r.bytes ++ rest ∧
      readTags (tags.insert r.key r.value) rest = .ok m := by
  rw [readTags, if_neg (by simp)] at h
  split at h
  · cases h
  next keyText afterKey hkey =>
    split at h
    · cases h
    next valueText rest hvalue =>
      split at h
      · cases h
      · cases h
      next key value hkeyText hvalueText =>
        obtain rfl := TagKey.ofString_eq_ok_iff.1 hkeyText
        obtain rfl := TagValue.ofString_eq_ok_iff.1 hvalueText
        obtain ⟨keyGroups, hkeyGroups, rfl⟩ := (readText_eq_ok_iff key.valid.2).1 hkey
        obtain ⟨valueGroups, hvalueGroups, rfl⟩ := (readText_eq_ok_iff value.valid).1 hvalue
        exact ⟨⟨keyGroups, key, valueGroups, value⟩, rest, ⟨hkeyGroups, hvalueGroups⟩,
          by rw [Record.bytes_append], h⟩

/-- The reader stops at a byte that starts no record of a tag. -/
theorem readTags_of_head?_ne {tags : TagMap} {bytes : List UInt8}
    (h : bytes.head? ≠ some tagRecord) : readTags tags bytes = .ok tags := by
  cases bytes with
  | nil => rw [readTags]
  | cons record tail =>
    have hrecord : record ≠ tagRecord := by simpa using h
    rw [readTags, if_pos hrecord]

theorem readTags_flatMap_append {records : List Record}
    (hrecords : ∀ r ∈ records, r.WellFormed wrapped) (tags : TagMap) {tail : List UInt8}
    (htail : tail.head? ≠ some tagRecord) :
    readTags tags (records.flatMap Record.bytes ++ tail) = .ok (tags.bindAll records) := by
  induction records generalizing tags with
  | nil => exact readTags_of_head?_ne htail
  | cons r records ih =>
    obtain ⟨hr, hrecords⟩ := List.forall_mem_cons.1 hrecords
    rw [List.flatMap_cons, List.append_assoc, readTags_bytes_append hr, ih hrecords]
    rfl

/-- **The reader accepts exactly well-formed records** and binds their tags in turn. -/
theorem readTags_eq_ok_iff {tags m : TagMap} {bytes : List UInt8} :
    readTags tags bytes = .ok m ↔
      ∃ records tail, (∀ r ∈ records, Record.WellFormed wrapped r) ∧
        bytes = records.flatMap Record.bytes ++ tail ∧ tail.head? ≠ some tagRecord ∧
        m = tags.bindAll records := by
  constructor
  · intro h
    induction hlength : bytes.length using Nat.strongRecOn generalizing tags bytes with
    | ind n ih =>
      by_cases hhead : bytes.head? = some tagRecord
      · obtain ⟨tail, rfl⟩ := List.head?_eq_some_iff.1 hhead
        obtain ⟨r, rest, hr, hbytes, hread⟩ := exists_record_of_readTags h
        have hlt : rest.length < n := by
          have := congrArg List.length hbytes
          simp [Record.bytes] at this
          simp at hlength
          omega
        obtain ⟨records, tail', hrecords, rfl, htail, rfl⟩ := ih _ hlt hread rfl
        exact ⟨r :: records, tail', List.forall_mem_cons.2 ⟨hr, hrecords⟩,
          by rw [hbytes, List.flatMap_cons, List.append_assoc], htail, rfl⟩
      · rw [readTags_of_head?_ne hhead] at h
        cases h
        exact ⟨[], bytes, by simp, rfl, hhead, rfl⟩
  · rintro ⟨records, tail, hrecords, rfl, htail, rfl⟩
    exact readTags_flatMap_append hrecords tags htail

/-- **The bytes that are read are the serialized tag maps**, and the map that is read binds the tags of
the records in turn. -/
theorem decode_eq_ok_iff {bytes : List UInt8} {m : TagMap} :
    decode bytes = .ok m ↔
      ∃ records, Serialized wrapped bytes records ∧ m = bindAll OrderedMap.empty records := by
  unfold decode
  constructor
  · intro h
    split_ifs at h with hsize
    have hsize := Nat.not_lt.1 hsize
    cases bytes with
    | nil =>
      cases h
      exact ⟨[], ⟨hsize, by simp, .inl ⟨rfl, rfl⟩⟩, rfl⟩
    | cons version rest =>
      dsimp only at h
      split_ifs at h with hversion
      obtain rfl := Decidable.not_not.1 hversion
      obtain ⟨records, tail, hrecords, rfl, htail, rfl⟩ := readTags_eq_ok_iff.1 h
      exact ⟨records, ⟨hsize, hrecords, .inr ⟨tail, rfl, htail⟩⟩, rfl⟩
  · rintro ⟨records, ⟨hsize, hrecords, hlayout⟩, rfl⟩
    rw [if_neg (Nat.not_lt.2 hsize)]
    rcases hlayout with ⟨rfl, rfl⟩ | ⟨tail, rfl, htail⟩
    · rfl
    · dsimp only
      rw [if_neg (by simp), readTags_flatMap_append hrecords _ htail]

/-! ### The tags that are read -/

/-- The last record of a key gives its value. -/
theorem get?_bindAll (tags : TagMap) (records : List Record) (key : TagKey) :
    (tags.bindAll records).get? key =
      ((records.reverse.find? fun r => r.key = key).map Record.value).or (tags.get? key) := by
  induction records generalizing tags with
  | nil => rfl
  | cons r records ih =>
    rw [bindAll, List.foldl_cons, ← bindAll, ih, List.reverse_cons, List.find?_append,
      OrderedMap.get?_insert]
    by_cases h : r.key = key <;> simp [h]

/-! ### One form for all bytes -/

theorem Announces.append_inj {meaning : Nat → Nat} {g₁ g₂ r₁ r₂ : List UInt8} {t₁ t₂ : String}
    (h₁ : Announces meaning g₁ t₁) (h₂ : Announces meaning g₂ t₂) (hvalid₁ : TagValue.Valid t₁)
    (hvalid₂ : TagValue.Valid t₂)
    (h : g₁ ++ (Text.Utf8.encode t₁ ++ r₁) = g₂ ++ (Text.Utf8.encode t₂ ++ r₂)) :
    g₁ = g₂ ∧ t₁ = t₂ ∧ r₁ = r₂ := by
  obtain ⟨rfl, htexts⟩ := h₁.isGroups.append_inj h₂.isGroups h
  have hsize : (Text.Utf8.encode t₁).length = (Text.Utf8.encode t₂).length := by
    rw [Text.Utf8.length_encode, Text.Utf8.length_encode, ← h₁.size_eq, h₂.size_eq]
  obtain ⟨hencode, hrest⟩ := List.append_inj htexts hsize
  have hread₁ := (Text.Utf8.decode_eq_ok_iff (TagValue.narrow_of_valid hvalid₁)).2 rfl
  have hread₂ := (Text.Utf8.decode_eq_ok_iff (TagValue.narrow_of_valid hvalid₂)).2 rfl
  rw [hencode, hread₂] at hread₁
  cases hread₁
  exact ⟨rfl, rfl, hrest⟩

/-- Where a record ends is seen from its bytes. -/
theorem Record.WellFormed.append_inj {meaning : Nat → Nat} {r₁ r₂ : Record}
    {rest₁ rest₂ : List UInt8} (h₁ : r₁.WellFormed meaning) (h₂ : r₂.WellFormed meaning)
    (h : r₁.bytes ++ rest₁ = r₂.bytes ++ rest₂) : r₁ = r₂ ∧ rest₁ = rest₂ := by
  obtain ⟨keyGroups₁, ⟨key₁, hkey₁⟩, valueGroups₁, ⟨value₁, hvalue₁⟩⟩ := r₁
  obtain ⟨keyGroups₂, ⟨key₂, hkey₂⟩, valueGroups₂, ⟨value₂, hvalue₂⟩⟩ := r₂
  rw [bytes_append, bytes_append] at h
  obtain ⟨-, htexts⟩ := List.cons.inj h
  obtain ⟨rfl, rfl, hafter⟩ := Announces.append_inj h₁.key h₂.key hkey₁.2 hkey₂.2 htexts
  obtain ⟨rfl, rfl, hrest⟩ := Announces.append_inj h₁.value h₂.value hvalue₁ hvalue₂ hafter
  exact ⟨rfl, hrest⟩

theorem records_append_inj {meaning : Nat → Nat} {records₁ records₂ : List Record}
    {tail₁ tail₂ : List UInt8} (h₁ : ∀ r ∈ records₁, r.WellFormed meaning)
    (h₂ : ∀ r ∈ records₂, r.WellFormed meaning) (htail₁ : tail₁.head? ≠ some tagRecord)
    (htail₂ : tail₂.head? ≠ some tagRecord)
    (h : records₁.flatMap Record.bytes ++ tail₁ = records₂.flatMap Record.bytes ++ tail₂) :
    records₁ = records₂ := by
  induction records₁ generalizing records₂ with
  | nil =>
    cases records₂ with
    | nil => rfl
    | cons r records₂ =>
      rw [List.flatMap_cons, List.append_assoc, r.bytes_append] at h
      exact absurd (congrArg List.head? h) htail₁
  | cons r₁ records₁ ih =>
    cases records₂ with
    | nil =>
      rw [List.flatMap_cons, List.append_assoc, r₁.bytes_append] at h
      exact absurd (congrArg List.head? h).symm htail₂
    | cons r₂ records₂ =>
      obtain ⟨hr₁, hrecords₁⟩ := List.forall_mem_cons.1 h₁
      obtain ⟨hr₂, hrecords₂⟩ := List.forall_mem_cons.1 h₂
      rw [List.flatMap_cons, List.flatMap_cons, List.append_assoc, List.append_assoc] at h
      obtain ⟨rfl, hrest⟩ := hr₁.append_inj hr₂ h
      rw [ih hrecords₁ hrecords₂ hrest]

/-- **The bytes determine the records.** -/
theorem Serialized.unique {meaning : Nat → Nat} {bytes : List UInt8} {records₁ records₂ : List Record}
    (h₁ : Serialized meaning bytes records₁) (h₂ : Serialized meaning bytes records₂) :
    records₁ = records₂ := by
  rcases h₁.layout with ⟨rfl, rfl⟩ | ⟨tail₁, hbytes, htail₁⟩
  · rcases h₂.layout with ⟨-, rfl⟩ | ⟨tail₂, hbytes, -⟩
    · rfl
    · cases hbytes
  · subst hbytes
    rcases h₂.layout with ⟨hbytes, -⟩ | ⟨tail₂, hbytes, htail₂⟩
    · cases hbytes
    · exact records_append_inj h₁.wellFormed h₂.wellFormed htail₁ htail₂ (List.cons.inj hbytes).2

/-! ### Lengths that wrap -/

/-- One of the lengths has more than 32 bits. -/
def Record.Overflows (r : Record) : Prop :=
  2 ^ 32 ≤ groupsValue r.keyGroups ∨ 2 ^ 32 ≤ groupsValue r.valueGroups

/-- The bytes are read as records of which one has a length of more than 32 bits. -/
def Overflows (bytes : List UInt8) : Prop :=
  ∃ records, Serialized wrapped bytes records ∧ ∃ r ∈ records, r.Overflows

/-- Tag texts are short: a length that is one in full is one of 32 bits. -/
theorem announces_id_iff (groups : List UInt8) {text : String} (htext : TagValue.Valid text) :
    Announces id groups text ↔ Announces wrapped groups text ∧ groupsValue groups < 2 ^ 32 := by
  have hsize : text.utf8ByteSize < 2 ^ 32 := Nat.lt_of_le_of_lt htext.1 (by decide)
  constructor
  · intro h
    have hvalue : groupsValue groups = text.utf8ByteSize := h.size_eq
    have hlt : groupsValue groups < 2 ^ 32 := hvalue ▸ hsize
    exact ⟨⟨h.isGroups, h.length_le, (Nat.mod_eq_of_lt hlt).trans hvalue⟩, hlt⟩
  · rintro ⟨h, hlt⟩
    exact ⟨h.isGroups, h.length_le, (Nat.mod_eq_of_lt hlt).symm.trans h.size_eq⟩

theorem Record.wellFormed_id_iff (r : Record) :
    r.WellFormed id ↔ r.WellFormed wrapped ∧ ¬r.Overflows := by
  have hkey := announces_id_iff r.keyGroups r.key.valid.2
  have hvalue := announces_id_iff r.valueGroups r.value.valid
  unfold Overflows
  constructor
  · intro h
    exact ⟨⟨(hkey.1 h.key).1, (hvalue.1 h.value).1⟩,
      not_or.2 ⟨Nat.not_le.2 (hkey.1 h.key).2, Nat.not_le.2 (hvalue.1 h.value).2⟩⟩
  · rintro ⟨h, hlt⟩
    obtain ⟨hkeyLt, hvalueLt⟩ := not_or.1 hlt
    exact ⟨hkey.2 ⟨h.key, Nat.not_le.1 hkeyLt⟩, hvalue.2 ⟨h.value, Nat.not_le.1 hvalueLt⟩⟩

theorem serialized_id_iff {bytes : List UInt8} {records : List Record} :
    Serialized id bytes records ↔ Serialized wrapped bytes records ∧ ∀ r ∈ records, ¬r.Overflows := by
  constructor
  · rintro ⟨hsize, hrecords, hlayout⟩
    exact ⟨⟨hsize, fun r hr => (r.wellFormed_id_iff.1 (hrecords r hr)).1, hlayout⟩,
      fun r hr => (r.wellFormed_id_iff.1 (hrecords r hr)).2⟩
  · rintro ⟨⟨hsize, hrecords, hlayout⟩, hnot⟩
    exact ⟨hsize, fun r hr => r.wellFormed_id_iff.2 ⟨hrecords r hr, hnot r hr⟩, hlayout⟩

/-- The reader accepts the bytes exactly if they are a serialized tag map, and then gives each key the
value of its last record. -/
structure ReadsFormat (meaning : Nat → Nat) (bytes : List UInt8) : Prop where
  /-- What is accepted. -/
  accepts : (∃ tags, decode bytes = .ok tags) ↔ ∃ records, Serialized meaning bytes records
  /-- What is read. -/
  values {tags : TagMap} {records : List Record} : decode bytes = .ok tags →
    Serialized meaning bytes records → ∀ key, tags.get? key =
      (records.reverse.find? fun r => r.key = key).map Record.value

theorem readsFormat_wrapped (bytes : List UInt8) : ReadsFormat wrapped bytes where
  accepts := by
    constructor
    · rintro ⟨tags, h⟩
      obtain ⟨records, hrecords, -⟩ := decode_eq_ok_iff.1 h
      exact ⟨records, hrecords⟩
    · rintro ⟨records, hrecords⟩
      exact ⟨_, decode_eq_ok_iff.2 ⟨records, hrecords, rfl⟩⟩
  values := by
    intro tags records h hrecords key
    obtain ⟨records', hrecords', rfl⟩ := decode_eq_ok_iff.1 h
    obtain rfl := hrecords.unique hrecords'
    rw [get?_bindAll, OrderedMap.get?_empty, Option.or_none]

/-- Where a length wraps, bytes are read that are no form with lengths taken in full. -/
theorem Overflows.not_readsFormat_id {bytes : List UInt8} (h : Overflows bytes) :
    ¬ReadsFormat id bytes := by
  intro hread
  obtain ⟨records, hrecords, r, hr, hover⟩ := h
  obtain ⟨records', hfull⟩ :=
    hread.accepts.1 ((readsFormat_wrapped bytes).accepts.2 ⟨records, hrecords⟩)
  obtain ⟨hrecords', hnot⟩ := serialized_id_iff.1 hfull
  obtain rfl := hrecords.unique hrecords'
  exact hnot r hr hover

/-- **The reader accepts exactly the format and gives each key its last value**, lengths taken as numbers
of 32 bits. With lengths taken in full this holds of all bytes but those that are read with a length of
more than 32 bits. -/
theorem readsFormat_iff (bytes : List UInt8) :
    ReadsFormat wrapped bytes ∧ (ReadsFormat id bytes ↔ ¬Overflows bytes) := by
  have hread := readsFormat_wrapped bytes
  refine ⟨hread, fun h hover => hover.not_readsFormat_id h, fun hnot => ?_⟩
  have hfull : ∀ records, Serialized id bytes records ↔ Serialized wrapped bytes records :=
    fun records => serialized_id_iff.trans
      ⟨And.left, fun h => ⟨h, fun r hr hover => hnot ⟨records, h, r, hr, hover⟩⟩⟩
  refine ⟨?_, fun h hrecords => hread.values h ((hfull _).1 hrecords)⟩
  rw [hread.accepts]
  exact exists_congr fun records => (hfull records).symm

/-- A length of `2 ^ 32 + 1` stands before the key, and one byte is read as the key. -/
theorem not_readsFormat_of_wrapped_length :
    ¬ReadsFormat id [0, 0, 0x81, 0x80, 0x80, 0x80, 0x10, 0x6b, 0] := by
  let r : Record := ⟨[0x81, 0x80, 0x80, 0x80, 0x10], ⟨"k", by decide⟩, [0], ⟨"", by decide⟩⟩
  have hr : r.WellFormed wrapped :=
    ⟨⟨by simp [IsGroups, r], by decide, by decide⟩, ⟨by simp [IsGroups, r], by decide, by decide⟩⟩
  have hserialized : Serialized wrapped [0, 0, 0x81, 0x80, 0x80, 0x80, 0x10, 0x6b, 0] [r] :=
    ⟨by decide, by simpa using hr, .inr ⟨[], by decide, by decide⟩⟩
  exact Overflows.not_readsFormat_id ⟨[r], hserialized, r, by simp, .inl (by decide)⟩

end TagMap

end Telemetry
