import RemoteFleet.Proofs.Roster.Acceptance

/-!
# Rosters in their inline form

The inline form is a list of items with commas between them.  Each item is `index=address`, or an
address alone, which is numbered by its position.

* `HostRoster.inlineText` writes a roster so, and `IsInlineText` says how far the text may be spread
  out: blanks may stand around every comma and around the first sign of an item, and items may be
  empty.  What is spread out is read as the entries that it was made of (`readItems_of_isSpread`).
* Addresses alone are numbered by the items that are kept (`readItems_addresses`).  So they are
  numbered as in `ofAddresses`, and no index comes twice as long as there are indices enough.
-/

namespace RemoteFleet

/-- Whether an entry leaves the whole login to the credentials. -/
structure HostEntry.IsPlain (e : HostEntry) : Prop where
  user : e.user = none
  keyFile : e.keyFile = none
  port : e.port = none

/-- Whether an address stays as it is between commas. -/
structure IsInlineAddress (address : String) : Prop where
  trimmed : Text.trimString address = address
  comma : ',' ∉ address.toList

/-- An entry as `index=address`. -/
def HostEntry.inlineItem (e : HostEntry) : String :=
  Text.decimalString e.index.toNat ++ "=" ++ e.address

/-- The entries of a roster with commas between them. -/
def HostRoster.inlineText (r : HostRoster) : String :=
  ",".intercalate (r.entries.map (·.inlineItem))

/-- What may stand for an entry between two commas: blanks may stand around it and around its first
sign. -/
inductive HostEntry.IsSpread (e : HostEntry) : List Char → Prop
  | item (b b₁ b₂ b' : List Char) (hb : Text.isAllBlank b = true) (hb₁ : Text.isAllBlank b₁ = true)
      (hb₂ : Text.isAllBlank b₂ = true) (hb' : Text.isAllBlank b' = true) :
      IsSpread e
        (b ++ (Text.decimal e.index.toNat ++ b₁ ++ ['='] ++ (b₂ ++ e.address.toList)) ++ b')

/-- What may stand for entries between commas: empty items may stand among them. -/
inductive ItemsSpread : List HostEntry → List (List Char) → Prop
  | nil : ItemsSpread [] []
  | blank {es : List HostEntry} {pieces : List (List Char)} (b : List Char)
      (hb : Text.isAllBlank b = true) (h : ItemsSpread es pieces) : ItemsSpread es (b :: pieces)
  | entry {e : HostEntry} {es : List HostEntry} {piece : List Char} {pieces : List (List Char)}
      (he : e.IsSpread piece) (h : ItemsSpread es pieces) : ItemsSpread (e :: es) (piece :: pieces)

/-- Whether a text is the inline form of entries, perhaps spread out. -/
def IsInlineText (es : List HostEntry) (text : String) : Prop :=
  ∃ pieces, ItemsSpread es pieces ∧ text.toList = [','].intercalate pieces

variable {e : HostEntry} {es : List HostEntry} {address : String} {piece : List Char}
  {pieces : List (List Char)}

/-! ## Items -/

theorem IsInlineAddress.toList_trimmed (h : IsInlineAddress address) :
    Text.Trimmed address.toList := by
  have htrim : Text.trim address.toList = address.toList := by
    rw [← String.toList_ofList (l := Text.trim address.toList)]
    exact congrArg String.toList h.trimmed
  rw [← htrim]
  exact Text.trimmed_trim address.toList

theorem toList_ne_nil_of_sound (h : e.Sound) : e.address.toList ≠ [] := by
  intro hnil
  have hblank := h.2
  rw [hnil] at hblank
  cases hblank

/-- An item is read as its entry. -/
theorem HostEntry.IsSpread.readItem (h : e.IsSpread piece) (hplain : e.IsPlain)
    (haddress : IsInlineAddress e.address) (hsound : e.Sound) (position : Nat) :
    Text.trim piece ≠ [] ∧ HostRoster.readItem position (Text.trim piece) = .ok e := by
  obtain ⟨b, b₁, b₂, b', hb, hb₁, hb₂, hb'⟩ := h
  have hnumeral := Text.isNumeral_decimal e.index.toNat
  have htrimmed := haddress.toList_trimmed
  have hitem := hnumeral.trimmed.append htrimmed hnumeral.ne_nil (toList_ne_nil_of_sound hsound)
    (b₁ ++ ['='] ++ b₂)
  have hpiece : Text.trim
      (b ++ (Text.decimal e.index.toNat ++ b₁ ++ ['='] ++ (b₂ ++ e.address.toList)) ++ b')
        = Text.decimal e.index.toNat ++ b₁ ++ ['='] ++ (b₂ ++ e.address.toList) := by
    refine Text.trim_append ?_ hb hb'
    simpa only [List.append_assoc] using hitem
  have hsign : '=' ∉ Text.decimal e.index.toNat ++ b₁ := by
    rw [List.mem_append, not_or]
    exact ⟨hnumeral.not_mem (by decide) rfl, Text.not_mem_of_isAllBlank hb₁ rfl⟩
  have hindex : Text.trim (Text.decimal e.index.toNat ++ b₁) = Text.decimal e.index.toNat :=
    Text.trim_append hnumeral.trimmed (b := []) rfl hb₁
  have hafter : Text.trim (b₂ ++ e.address.toList) = e.address.toList := by
    have hends : Text.trim (b₂ ++ e.address.toList ++ []) = e.address.toList :=
      Text.trim_append htrimmed hb₂ rfl
    rw [List.append_nil] at hends
    exact hends
  rw [hpiece]
  constructor
  · simp
  · unfold HostRoster.readItem
    rw [Text.cutOnce?_append hsign [] (b₂ ++ e.address.toList)]
    simp only [hindex, Text.readUInt32_eq_ok_iff.2 hnumeral, hafter, String.ofList_toList]
    obtain ⟨index, address, user, keyFile, port⟩ := e
    obtain ⟨rfl, rfl, rfl⟩ := hplain
    rfl

/-- No comma stands in an item, so items are what commas part. -/
theorem HostEntry.IsSpread.comma (h : e.IsSpread piece) (haddress : IsInlineAddress e.address) :
    ',' ∉ piece := by
  obtain ⟨b, b₁, b₂, b', hb, hb₁, hb₂, hb'⟩ := h
  have hnumeral := Text.isNumeral_decimal e.index.toNat
  have hblank {b : List Char} (hb : Text.isAllBlank b = true) : ',' ∉ b :=
    Text.not_mem_of_isAllBlank hb rfl
  have hdigits : ',' ∉ Text.decimal e.index.toNat := hnumeral.not_mem (by decide) rfl
  simp [hblank hb, hblank hb₁, hblank hb₂, hblank hb', hdigits, haddress.comma]

theorem ItemsSpread.comma (h : ItemsSpread es pieces)
    (hes : ∀ e ∈ es, IsInlineAddress e.address) : ∀ piece ∈ pieces, ',' ∉ piece := by
  induction h with
  | nil => simp
  | blank b hb h ih =>
    exact List.forall_mem_cons.2 ⟨Text.not_mem_of_isAllBlank hb rfl, ih hes⟩
  | entry he h ih =>
    rw [List.forall_mem_cons] at hes
    exact List.forall_mem_cons.2 ⟨he.comma hes.1, ih hes.2⟩

namespace HostRoster

/-- Pieces with commas between them are the items, once blanks and blank pieces are gone. -/
theorem inlineItems_intercalate (h : ∀ piece ∈ pieces, ',' ∉ piece) :
    inlineItems ([','].intercalate pieces) = (pieces.map Text.trim).filter (· ≠ []) := by
  cases pieces with
  | nil => rfl
  | cons piece pieces =>
    unfold inlineItems
    rw [Text.pieces_intercalate (List.cons_ne_nil piece pieces) h]

theorem readItems_cons {item : List Char} {items : List (List Char)} {position : Nat}
    (he : readItem position item = .ok e) (hes : readItems (position + 1) items = .ok es) :
    readItems position (item :: items) = .ok (e :: es) := by
  rw [readItems, he, hes]
  rfl

/-- The items that are spread out are read as their entries, wherever the counting begins. -/
theorem readItems_of_isSpread (h : ItemsSpread es pieces)
    (hes : ∀ e ∈ es, e.IsPlain ∧ IsInlineAddress e.address ∧ e.Sound) (position : Nat) :
    readItems position ((pieces.map Text.trim).filter (· ≠ [])) = .ok es := by
  induction h generalizing position with
  | nil => rfl
  | blank b hb h ih =>
    rw [List.map_cons, Text.trim_eq_nil_iff.2 hb]
    exact ih hes position
  | entry he h ih =>
    rw [List.forall_mem_cons] at hes
    obtain ⟨⟨hplain, haddress, hsound⟩, hes⟩ := hes
    obtain ⟨hne, hread⟩ := he.readItem hplain haddress hsound position
    rw [List.map_cons, List.filter_cons_of_pos (by simpa using hne)]
    exact readItems_cons hread (ih hes (position + 1))

/-- A text that is the inline form of a roster is read as that roster. -/
theorem parseInline_of_isInlineText {r : HostRoster} {text : String}
    (hr : ∀ e ∈ r.entries, e.IsPlain ∧ IsInlineAddress e.address)
    (h : IsInlineText r.entries text) : parseInline text = .ok r := by
  obtain ⟨pieces, hspread, htext⟩ := h
  have hcomma := hspread.comma fun e he => (hr e he).2
  have hread : readInline text = .ok r.entries := by
    unfold readInline
    rw [htext, inlineItems_intercalate hcomma]
    exact readItems_of_isSpread hspread (fun e he => ⟨(hr e he).1, (hr e he).2, r.sound e he⟩) 0
  unfold parseInline
  rw [hread]
  exact r.ofEntries_entries

/-- What is written is spread out by nothing. -/
theorem isInlineText_inlineText (r : HostRoster) : IsInlineText r.entries r.inlineText := by
  refine ⟨r.entries.map fun e => e.inlineItem.toList, ?_, ?_⟩
  · induction r.entries with
    | nil => exact .nil
    | cons e es ih =>
      have he : e.IsSpread ([] ++ (Text.decimal e.index.toNat ++ [] ++ ['=']
          ++ ([] ++ e.address.toList)) ++ []) := .item [] [] [] [] rfl rfl rfl rfl
      refine .entry ?_ ih
      simpa [HostEntry.inlineItem, Text.decimalString] using he
  · simp [inlineText, String.toList_intercalate, Function.comp_def]

/-! ## Addresses alone -/

/-- An address without a sign is numbered by its position. -/
theorem readItem_address (h : '=' ∉ address.toList) (position : Nat) :
    readItem position address.toList = .ok { index := (position + 1).toUInt32, address } := by
  unfold readItem
  rw [Text.cutOnce?_eq_none h []]
  simp only [String.ofList_toList]

/-- Bare addresses, numbered from `position`. -/
def numbered (position : Nat) (addresses : List String) : List HostEntry :=
  addresses.mapIdx fun k address => ⟨(position + k + 1).toUInt32, address, none, none, none⟩

theorem numbered_cons (position : Nat) (address : String) (addresses : List String) :
    numbered position (address :: addresses)
      = { index := (position + 1).toUInt32, address } :: numbered (position + 1) addresses := by
  unfold numbered
  rw [List.mapIdx_cons]
  have hnext (k : Nat) : position + (k + 1) + 1 = position + 1 + k + 1 := by omega
  simp only [hnext, Nat.add_zero]

theorem readItems_addresses {addresses : List String}
    (h : ∀ address ∈ addresses, '=' ∉ address.toList) (position : Nat) :
    readItems position (addresses.map String.toList) = .ok (numbered position addresses) := by
  induction addresses generalizing position with
  | nil => rfl
  | cons address addresses ih =>
    rw [List.forall_mem_cons] at h
    rw [numbered_cons]
    exact readItems_cons (readItem_address h.1 position) (ih h.2 (position + 1))

theorem ofAddresses_eq (addresses : List String) :
    ofAddresses addresses = ofEntries (numbered 0 addresses) := by
  unfold ofAddresses numbered
  simp only [Nat.zero_add]

/-- Addresses that have neither sign nor comma are read as the roster of these addresses. -/
theorem parseInline_intercalate {addresses : List String}
    (h : ∀ address ∈ addresses, IsInlineAddress address ∧
      Text.isAllBlank address.toList = false ∧ '=' ∉ address.toList) :
    parseInline (",".intercalate addresses) = ofAddresses addresses := by
  have hcomma : ∀ piece ∈ addresses.map String.toList, ',' ∉ piece := by
    rw [List.forall_mem_map]
    exact fun address haddress => (h address haddress).1.comma
  have htrim : (addresses.map String.toList).map Text.trim = addresses.map String.toList := by
    rw [List.map_map]
    apply List.map_congr_left
    exact fun address haddress => (h address haddress).1.toList_trimmed.trim_eq
  have hkeep : ∀ piece ∈ addresses.map String.toList, piece ≠ [] := by
    rw [List.forall_mem_map]
    intro address haddress hnil
    have hblank := (h address haddress).2.1
    rw [hnil] at hblank
    cases hblank
  have hitems : inlineItems (",".intercalate addresses).toList = addresses.map String.toList := by
    rw [String.toList_intercalate]
    show inlineItems ([','].intercalate (addresses.map String.toList)) = _
    rw [inlineItems_intercalate hcomma, htrim, List.filter_eq_self.2 (by simpa using hkeep)]
  have hread := readItems_addresses (fun address haddress => (h address haddress).2.2) 0
  unfold parseInline readInline
  rw [hitems, hread, ofAddresses_eq]
  rfl

theorem getElem?_numbered (addresses : List String) (k : Nat) :
    (numbered 0 addresses)[k]?
      = addresses[k]?.map fun address => { index := (k + 1).toUInt32, address } := by
  unfold numbered
  rw [List.getElem?_mapIdx, Nat.zero_add]

/-- Addresses that are not blank make a roster, as long as there are indices enough. -/
theorem exists_ofAddresses {addresses : List String} (hne : addresses ≠ [])
    (hlength : addresses.length < UInt32.size)
    (hblank : ∀ address ∈ addresses, Text.isAllBlank address.toList = false) :
    ∃ r, ofAddresses addresses = .ok r ∧ r.entries = numbered 0 addresses := by
  have hsize : (numbered 0 addresses).length = addresses.length := List.length_mapIdx
  have hindex {k : Nat} (hk : k < (numbered 0 addresses).length) :
      (numbered 0 addresses)[k].index.toNat = k + 1 := by
    have hposition : k + 1 < UInt32.size := by omega
    simp only [numbered, List.getElem_mapIdx, Nat.zero_add]
    exact UInt32.toNat_ofNat_of_lt' hposition
  have hascending : ((numbered 0 addresses).map (·.index)).Pairwise (· < ·) := by
    rw [List.pairwise_map, List.pairwise_iff_getElem]
    intro i j hi hj hij
    rw [UInt32.lt_iff_toNat_lt, hindex hi, hindex hj]
    omega
  have hsound : ∀ e ∈ numbered 0 addresses, e.Sound := by
    intro e he
    obtain ⟨k, hk, rfl⟩ := List.getElem_of_mem he
    constructor
    · intro hzero
      have hpositive := hindex hk
      rw [hzero] at hpositive
      cases hpositive
    · simp only [numbered, List.getElem_mapIdx]
      exact hblank _ (List.getElem_mem _)
  have hnil : numbered 0 addresses ≠ [] := by
    intro hnil
    rw [hnil] at hsize
    exact hne (List.length_eq_zero_iff.1 hsize.symm)
  refine ⟨⟨numbered 0 addresses, hascending, hsound, hnil⟩, ?_, rfl⟩
  rw [ofAddresses_eq]
  exact ofEntries_entries ⟨numbered 0 addresses, hascending, hsound, hnil⟩

/-! ## Reading back -/

/-- Two hosts, one of them with a sign in its address. -/
def signed : HostRoster where
  entries := [{ index := 5, address := "h=5" }, { index := 7, address := "x" }]
  ascending := by decide
  sound := by decide
  ne_nil := by decide

/-- The inline form of a roster, however it is spread out, is read as that roster.  Addresses alone
are read as the roster of these addresses: each is found under its position, counted from 1. -/
theorem parseInline_reads_back :
    (∀ r : HostRoster, (∀ e ∈ r.entries, e.IsPlain ∧ IsInlineAddress e.address) →
      parseInline r.inlineText = .ok r ∧
        ∀ text, IsInlineText r.entries text → parseInline text = .ok r) ∧
    ∀ addresses : List String, addresses.length < UInt32.size →
      (∀ address ∈ addresses, IsInlineAddress address ∧
        Text.isAllBlank address.toList = false ∧ '=' ∉ address.toList) →
      parseInline (",".intercalate addresses) = ofAddresses addresses ∧
        (addresses ≠ [] → ∃ r, ofAddresses addresses = .ok r ∧ r.size = addresses.length ∧
          ∀ k address, addresses[k]? = some address →
            ∃ i : UInt32, i.toNat = k + 1 ∧ r.get? i = some { index := i, address }) := by
  constructor
  · intro r hr
    refine ⟨parseInline_of_isInlineText hr r.isInlineText_inlineText, ?_⟩
    exact fun text htext => parseInline_of_isInlineText hr htext
  · intro addresses hlength h
    refine ⟨parseInline_intercalate h, fun hne => ?_⟩
    obtain ⟨r, hr, hentries⟩ :=
      exists_ofAddresses hne hlength fun address haddress => (h address haddress).2.1
    refine ⟨r, hr, ?_, fun k address hk => ?_⟩
    · unfold size
      rw [hentries]
      exact List.length_mapIdx
    · have hposition : k + 1 < UInt32.size := by
        have hk := (List.getElem?_eq_some_iff.1 hk).1
        omega
      have hindex := UInt32.toNat_ofNat_of_lt' hposition
      refine ⟨(k + 1).toUInt32, hindex, get?_eq_some_iff.2 ⟨?_, rfl⟩⟩
      apply List.mem_of_getElem? (i := k)
      rw [hentries, getElem?_numbered, hk]
      rfl

/-- The two hosts with blanks and with empty items, and three addresses alone. -/
theorem parseInline_reads_back_signed :
    parseInline "5=h=5,7=x" = .ok signed ∧ parseInline " , 5 =\th=5 ,,7= x\n" = .ok signed ∧
      ∃ r, parseInline "a,b,c" = .ok r ∧ r.get? 3 = some { index := 3, address := "c" } := by
  have hsigned : ∀ e ∈ signed.entries, e.IsPlain ∧ IsInlineAddress e.address := by
    rw [signed, List.forall_mem_cons, List.forall_mem_singleton]
    exact ⟨⟨⟨rfl, rfl, rfl⟩, rfl, by decide⟩, ⟨⟨rfl, rfl, rfl⟩, rfl, by decide⟩⟩
  have hspread : IsInlineText signed.entries " , 5 =\th=5 ,,7= x\n" := by
    refine ⟨[[' '], " 5 =\th=5 ".toList, [], "7= x\n".toList], ?_, rfl⟩
    refine .blank _ rfl (.entry ?_ (.blank _ rfl (.entry ?_ .nil)))
    · exact .item [' '] [' '] ['\t'] [' '] rfl rfl rfl rfl
    · exact .item [] [] [' '] ['\n'] rfl rfl rfl rfl
  obtain ⟨hwritten, hany⟩ := parseInline_reads_back.1 signed hsigned
  have haddresses : ∀ address ∈ ["a", "b", "c"], IsInlineAddress address ∧
      Text.isAllBlank address.toList = false ∧ '=' ∉ address.toList := by
    simp only [List.forall_mem_cons, List.not_mem_nil, false_imp_iff, implies_true, and_true]
    exact ⟨⟨⟨rfl, by decide⟩, rfl, by decide⟩, ⟨⟨rfl, by decide⟩, rfl, by decide⟩,
      ⟨⟨rfl, by decide⟩, rfl, by decide⟩⟩
  obtain ⟨hread, hroster⟩ := parseInline_reads_back.2 ["a", "b", "c"] (by decide) haddresses
  obtain ⟨r, hr, _, hget⟩ := hroster (by simp)
  obtain ⟨i, hi, hc⟩ := hget 2 "c" rfl
  obtain rfl : i = 3 := UInt32.toNat_inj.1 hi
  refine ⟨hwritten, hany _ hspread, r, ?_, hc⟩
  rw [← hr, ← hread]
  rfl

end HostRoster

end RemoteFleet
