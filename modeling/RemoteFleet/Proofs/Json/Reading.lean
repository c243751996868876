import RemoteFleet.Proofs.Json.Scalars

/-!
# JSON documents, written and read back

A value that can be written at all (`Readable`: its whole numbers within 64 bits, and no name twice
in an object) is read back from its text, on one line or over several.

`Spells read text j` says that a reader takes exactly `text` for `j`, whatever stands behind it; and
`IsText text j` that the reader of values does, at every depth for which the text is not too long.
The lemmas carry it outwards:

* `readElements?_joinWith`, `readMembers?_joinWith`: from elements and members to what stands
  between brackets, with any blanks between them;
* `isText_array`, `isText_object`: from there to a container, one level further out;
* `Readable.isText_compact`, `Readable.isText_pretty`: by induction on the value, to whole texts.
-/

namespace RemoteFleet.Json

/-! ## Blanks -/

theorem isSpace_iff {c : Char} :
    isSpace c = true ↔ ((c = ' ' ∨ c = '\n') ∨ c = '\r') ∨ c = '\t' := by
  simp [isSpace]

theorem isSpace_of_isDigit {c : Char} (h : c.isDigit = true) : isSpace c = false := by
  rw [Bool.eq_false_iff]
  intro hspace
  obtain ((rfl | rfl) | rfl) | rfl := isSpace_iff.1 hspace <;> cases h

/-- Only blanks. -/
def IsSpaces (s : List Char) : Prop := ∀ c ∈ s, isSpace c = true

theorem isSpaces_nil : IsSpaces [] := fun _ hc => nomatch List.not_mem_nil hc

theorem skipSpaces_append {blanks : List Char} (h : IsSpaces blanks) (s : List Char) :
    skipSpaces (blanks ++ s) = skipSpaces s :=
  List.dropWhile_append_of_pos h

theorem skipSpaces_cons {c : Char} (h : isSpace c = false) (s : List Char) :
    skipSpaces (c :: s) = c :: s := by
  simp [skipSpaces, h]

theorem skipSpaces_of_isSpaces {blanks : List Char} (h : IsSpaces blanks) :
    skipSpaces blanks = [] := by
  have hskip := skipSpaces_append h []
  rwa [List.append_nil] at hskip

theorem isSpaces_lineStart (depth : Nat) : IsSpaces (lineStart depth) := by
  intro c hc
  rcases List.mem_cons.1 hc with rfl | hc
  · rfl
  · rw [List.eq_of_mem_replicate hc]
    rfl

/-- A number ends at a blank, and at what it ends at without the blanks. -/
theorem IsSpaces.endsNumber_append {blanks : List Char} (h : IsSpaces blanks) {s : List Char}
    (hs : EndsNumber s) : EndsNumber (blanks ++ s) := by
  cases blanks with
  | nil => exact hs
  | cons b blanks =>
    refine endsNumber_cons ?_ _
    obtain ((rfl | rfl) | rfl) | rfl := isSpace_iff.1 (h b List.mem_cons_self) <;> decide

/-! ## Parts of containers -/

/-- Whether a text begins neither with a blank nor with the end of an array. -/
def StartsValue (text : List Char) : Prop :=
  ∃ c s, text = c :: s ∧ isSpace c = false ∧ c ≠ ']'

theorem StartsValue.append {text : List Char} (h : StartsValue text) (s : List Char) :
    StartsValue (text ++ s) := by
  obtain ⟨c, s', rfl, hc⟩ := h
  exact ⟨c, s' ++ s, rfl, hc⟩

theorem StartsValue.skipSpaces_eq {text : List Char} (h : StartsValue text) :
    skipSpaces text = text := by
  obtain ⟨c, s, rfl, hc, -⟩ := h
  exact skipSpaces_cons hc s

theorem StartsValue.ne_nil {text : List Char} (h : StartsValue text) : text ≠ [] := by
  obtain ⟨c, s, rfl, -⟩ := h
  exact List.cons_ne_nil c s

/-- A reader takes exactly this text for a value, whatever stands behind it. -/
structure Spells (read : ValueReader) (text : List Char) (j : Json) : Prop where
  starts : StartsValue text
  reads : ∀ rest, EndsNumber rest → read (text ++ rest) = some (j, rest)

variable {read : ValueReader} {write : Json → List Char} {blanks ending gap : List Char}

theorem readElements?_blanks (hblanks : IsSpaces blanks) (fuel : Nat) (s : List Char) :
    readElements? read fuel (blanks ++ s) = readElements? read fuel s := by
  cases fuel with
  | zero => rfl
  | succ fuel => rw [readElements?, readElements?, skipSpaces_append hblanks]

/-- Elements with commas and blanks between them come back. -/
theorem readElements?_joinWith (hblanks : IsSpaces blanks) (hending : IsSpaces ending)
    {values : List Json} (h : ∀ v ∈ values, Spells read (write v) v) (hne : values ≠ [])
    {fuel : Nat} (hfuel : values.length ≤ fuel) (rest : List Char) :
    readElements? read fuel
        (joinWith (',' :: blanks) (values.map write) ++ (ending ++ ']' :: rest))
      = some (values, rest) := by
  induction values generalizing fuel with
  | nil => exact absurd rfl hne
  | cons v values ih =>
    obtain ⟨hv, hvalues⟩ := List.forall_mem_cons.1 h
    obtain ⟨fuel, rfl⟩ := Nat.exists_eq_succ_of_ne_zero (Nat.ne_of_gt (Nat.lt_of_lt_of_le
      (Nat.succ_pos _) hfuel))
    cases values with
    | nil =>
      have hmark : skipSpaces (ending ++ ']' :: rest) = ']' :: rest := by
        rw [skipSpaces_append hending, skipSpaces_cons rfl]
      have hends : EndsNumber (ending ++ ']' :: rest) :=
        hending.endsNumber_append (endsNumber_cons (by decide) rest)
      simp [joinWith, readElements?, (hv.starts.append _).skipSpaces_eq, hv.reads _ hends, hmark]
    | cons next values =>
      let others := joinWith (',' :: blanks) ((next :: values).map write) ++ (ending ++ ']' :: rest)
      have htext : joinWith (',' :: blanks) ((v :: next :: values).map write)
            ++ (ending ++ ']' :: rest)
          = write v ++ (',' :: (blanks ++ others)) := by
        simp [joinWith, others]
      have hends : EndsNumber (',' :: (blanks ++ others)) := endsNumber_cons (by decide) _
      have hothers : readElements? read fuel others = some (next :: values, rest) :=
        ih hvalues (List.cons_ne_nil _ _) (Nat.le_of_succ_le_succ hfuel)
      rw [htext, readElements?, (hv.starts.append _).skipSpaces_eq, hv.reads _ hends]
      simp [skipSpaces_cons (c := ',') rfl, readElements?_blanks hblanks, hothers]

/-- A name, a colon and a value, with blanks before the value or none. -/
def memberText (gap : List Char) (write : Json → List Char) (member : String × Json) : List Char :=
  writeString member.1 ++ ':' :: (gap ++ write member.2)

theorem length_le_memberText (gap : List Char) (write : Json → List Char)
    (member : String × Json) : (write member.2).length ≤ (memberText gap write member).length := by
  simp only [memberText, List.length_append, List.length_cons]
  omega

theorem putMember_of_not_mem {name : String} {before : List (String × Json)}
    (h : name ∉ before.map (·.1)) (value : Json) :
    putMember name value before = before ++ [(name, value)] := by
  induction before with
  | nil => rfl
  | cons m before ih =>
    rw [List.map_cons, List.mem_cons, not_or] at h
    rw [putMember, if_neg (Ne.symm h.1), ih h.2, List.cons_append]

theorem readMembers?_blanks (hblanks : IsSpaces blanks) (fuel : Nat)
    (before : List (String × Json)) (s : List Char) :
    readMembers? read fuel before (blanks ++ s) = readMembers? read fuel before s := by
  cases fuel with
  | zero => rfl
  | succ fuel => rw [readMembers?, readMembers?, skipSpaces_append hblanks]

/-- One member is read up to the mark behind it. -/
theorem readMembers?_memberText (hgap : IsSpaces gap) (hending : IsSpaces ending)
    {member : String × Json} (h : Spells read (write member.2) member.2) (fuel : Nat)
    (before : List (String × Json)) {mark : Char} (hmark : mark = ',' ∨ mark = '\x7d')
    (rest : List Char) :
    readMembers? read (fuel + 1) before
        (memberText gap write member ++ (ending ++ mark :: rest))
      = if mark = ',' then readMembers? read fuel (putMember member.1 member.2 before) rest
        else some (putMember member.1 member.2 before, rest) := by
  have hends : EndsNumber (ending ++ mark :: rest) :=
    hending.endsNumber_append (endsNumber_cons (by rcases hmark with rfl | rfl <;> decide) rest)
  have hskip : skipSpaces (ending ++ mark :: rest) = mark :: rest := by
    rw [skipSpaces_append hending]
    rcases hmark with rfl | rfl <;> rw [skipSpaces_cons rfl]
  have hname : memberText gap write member ++ (ending ++ mark :: rest)
      = '"' :: (member.1.toList.flatMap writeChar ++ '"' ::
        (':' :: (gap ++ (write member.2 ++ (ending ++ mark :: rest))))) := by
    simp [memberText, writeString]
  rw [hname, readMembers?]
  simp only [skipSpaces_cons (c := '"') rfl, readString?_append, skipSpaces_cons (c := ':') rfl,
    skipSpaces_append hgap, (h.starts.append _).skipSpaces_eq, h.reads _ hends, hskip,
    Option.bind_eq_bind, Option.bind_some]
  rcases hmark with rfl | rfl <;> rfl

/-- Members with commas and blanks between them come back, if no name stands twice. -/
theorem readMembers?_joinWith (hblanks : IsSpaces blanks) (hending : IsSpaces ending)
    (hgap : IsSpaces gap) {members : List (String × Json)}
    (h : ∀ m ∈ members, Spells read (write m.2) m.2) (hne : members ≠ []) {fuel : Nat}
    (hfuel : members.length ≤ fuel) (before : List (String × Json))
    (hnames : ((before ++ members).map (·.1)).Nodup) (rest : List Char) :
    readMembers? read fuel before (joinWith (',' :: blanks) (members.map (memberText gap write))
        ++ (ending ++ '\x7d' :: rest))
      = some (before ++ members, rest) := by
  induction members generalizing fuel before with
  | nil => exact absurd rfl hne
  | cons m members ih =>
    obtain ⟨hm, hmembers⟩ := List.forall_mem_cons.1 h
    obtain ⟨fuel, rfl⟩ := Nat.exists_eq_succ_of_ne_zero (Nat.ne_of_gt (Nat.lt_of_lt_of_le
      (Nat.succ_pos _) hfuel))
    have hput : putMember m.1 m.2 before = before ++ [m] := by
      refine putMember_of_not_mem (fun hmem => ?_) m.2
      rw [List.map_append, List.map_cons, List.nodup_append] at hnames
      exact hnames.2.2 m.1 hmem m.1 List.mem_cons_self rfl
    cases members with
    | nil =>
      rw [List.map_cons, List.map_nil, joinWith, readMembers?_memberText hgap hending hm fuel before
        (.inr rfl), hput]
      rfl
    | cons next members =>
      let others := joinWith (',' :: blanks) ((next :: members).map (memberText gap write))
        ++ (ending ++ '\x7d' :: rest)
      have htext : joinWith (',' :: blanks) ((m :: next :: members).map (memberText gap write))
            ++ (ending ++ '\x7d' :: rest)
          = memberText gap write m ++ ([] ++ ',' :: (blanks ++ others)) := by
        simp [joinWith, others]
      have hothers : readMembers? read fuel (before ++ [m]) others
          = some (before ++ [m] ++ next :: members, rest) :=
        ih hmembers (List.cons_ne_nil _ _) (Nat.le_of_succ_le_succ hfuel) _ (by simpa using hnames)
      rw [htext, readMembers?_memberText hgap isSpaces_nil hm fuel before (.inl rfl), if_pos rfl,
        hput, readMembers?_blanks hblanks, hothers, List.append_assoc, List.singleton_append]

/-! ## Containers -/

theorem length_le_joinWith {separator text : List Char} {texts : List (List Char)}
    (h : text ∈ texts) : text.length ≤ (joinWith separator texts).length := by
  fun_induction joinWith separator texts with
  | case1 => cases h
  | case2 only => exact Nat.le_of_eq (congrArg List.length (List.mem_singleton.1 h))
  | case3 first texts hne ih =>
    rw [List.length_append, List.length_append]
    rcases List.mem_cons.1 h with rfl | h
    · omega
    · have hrest := ih h
      omega

theorem exists_joinWith_cons (separator text : List Char) (texts : List (List Char)) :
    ∃ s, joinWith separator (text :: texts) = text ++ s := by
  cases texts with
  | nil => exact ⟨[], by simp [joinWith]⟩
  | cons next texts => exact ⟨_, List.append_assoc ..⟩

/-- Texts that are not empty are at most as many as they have characters. -/
theorem length_le_length_joinWith (separator : List Char) {texts : List (List Char)}
    (h : ∀ text ∈ texts, text ≠ []) : texts.length ≤ (joinWith separator texts).length := by
  fun_induction joinWith separator texts with
  | case1 => exact Nat.le_refl 0
  | case2 only => exact List.length_pos_iff.2 (h only List.mem_cons_self)
  | case3 first texts hne ih =>
    obtain ⟨hfirst, htexts⟩ := List.forall_mem_cons.1 h
    have hpos := List.length_pos_iff.2 hfirst
    have hrest := ih htexts
    rw [List.length_append, List.length_append, List.length_cons]
    omega

theorem readValue?_bracket {depth : Nat} (hblanks : IsSpaces blanks) {s : List Char}
    (h : StartsValue s) :
    readValue? (depth + 1) ('[' :: (blanks ++ s))
      = (readElements? (readValue? depth) (s.length + 1) s).map
        fun (values, s) => (.array values, s) := by
  simp only [readValue?, skipSpaces_append hblanks, h.skipSpaces_eq]
  split
  · obtain ⟨c, s', heq, -, hbracket⟩ := h
    exact absurd (List.cons.inj heq).1.symm hbracket
  · rfl

theorem readValue?_brace {depth : Nat} (hblanks : IsSpaces blanks) (s : List Char) :
    readValue? (depth + 1) ('\x7b' :: (blanks ++ '"' :: s))
      = (readMembers? (readValue? depth) (('"' :: s).length + 1) [] ('"' :: s)).map
        fun (members, s) => (.object members, s) := by
  simp only [readValue?, skipSpaces_append hblanks, skipSpaces_cons (c := '"') rfl]
  rfl

/-- A text that stands for a value at every depth for which it is not too long.  The depth of a
value is less than the length of its text, since every container has brackets of its own. -/
def IsText (text : List Char) (j : Json) : Prop :=
  ∀ depth, text.length ≤ depth → Spells (readValue? (depth + 1)) text j

/-- What stands between brackets is shorter than the container, and so are its parts. -/
theorem exists_depth_below {opening closing : Char} {separator : List Char}
    {texts : List (List Char)} {depth : Nat}
    (h : (opening :: (blanks ++ (joinWith separator texts ++ (ending ++ [closing])))).length
      ≤ depth) :
    ∃ below, depth = below + 1 ∧ ∀ text ∈ texts, text.length ≤ below := by
  rw [List.length_cons, List.length_append, List.length_append, List.length_append] at h
  obtain ⟨below, rfl⟩ := Nat.exists_eq_succ_of_ne_zero (Nat.ne_of_gt (Nat.lt_of_lt_of_le
    (Nat.succ_pos _) h))
  refine ⟨below, rfl, fun text htext => ?_⟩
  have hle : text.length ≤ (joinWith separator texts).length := length_le_joinWith htext
  omega

theorem isText_array (hblanks : IsSpaces blanks) (hending : IsSpaces ending)
    {values : List Json} (h : ∀ v ∈ values, IsText (write v) v) (hne : values ≠ []) :
    IsText ('[' :: (blanks ++ (joinWith (',' :: blanks) (values.map write) ++ (ending ++ [']']))))
      (.array values) := by
  intro depth hdepth
  let text := joinWith (',' :: blanks) (values.map write)
  obtain ⟨depth, rfl, hparts⟩ := exists_depth_below hdepth
  have hspells : ∀ v ∈ values, Spells (readValue? (depth + 1)) (write v) v := fun v hv =>
    h v hv depth (hparts _ (List.mem_map_of_mem hv))
  have hstarts : StartsValue text := by
    obtain ⟨v, more, rfl⟩ := List.exists_cons_of_ne_nil hne
    obtain ⟨s, hs⟩ := exists_joinWith_cons (',' :: blanks) (write v) (more.map write)
    have htext : text = write v ++ s := hs
    exact htext ▸ (hspells v List.mem_cons_self).starts.append s
  have hlength : values.length ≤ text.length := by
    have hle := length_le_length_joinWith (',' :: blanks)
      (List.forall_mem_map.2 fun v hv => (hspells v hv).starts.ne_nil)
    rwa [List.length_map] at hle
  refine ⟨⟨'[', _, rfl, rfl, by decide⟩, fun rest _ => ?_⟩
  have hshape : '[' :: (blanks ++ (text ++ (ending ++ [']']))) ++ rest
      = '[' :: (blanks ++ (text ++ (ending ++ ']' :: rest))) := by
    simp
  rw [hshape, readValue?_bracket hblanks (hstarts.append _),
    readElements?_joinWith hblanks hending hspells hne (by rw [List.length_append]; omega)]
  rfl

theorem isText_object (hblanks : IsSpaces blanks) (hending : IsSpaces ending)
    (hgap : IsSpaces gap) {members : List (String × Json)}
    (h : ∀ m ∈ members, IsText (write m.2) m.2) (hne : members ≠ [])
    (hnames : (members.map (·.1)).Nodup) :
    IsText ('\x7b' :: (blanks ++ (joinWith (',' :: blanks) (members.map (memberText gap write))
        ++ (ending ++ ['\x7d']))))
      (.object members) := by
  intro depth hdepth
  let text := joinWith (',' :: blanks) (members.map (memberText gap write))
  obtain ⟨depth, rfl, hparts⟩ := exists_depth_below hdepth
  have hspells : ∀ m ∈ members, Spells (readValue? (depth + 1)) (write m.2) m.2 := fun m hm =>
    h m hm depth (Nat.le_trans (length_le_memberText gap write m)
      (hparts _ (List.mem_map_of_mem hm)))
  obtain ⟨s, hs⟩ : ∃ s, text = '"' :: s := by
    obtain ⟨m, more, rfl⟩ := List.exists_cons_of_ne_nil hne
    obtain ⟨s, hs⟩ := exists_joinWith_cons (',' :: blanks) (memberText gap write m)
      (more.map (memberText gap write))
    exact ⟨_, hs⟩
  have hlength : members.length ≤ text.length := by
    have hle := length_le_length_joinWith (',' :: blanks)
      (List.forall_mem_map.2 fun m _ => List.cons_ne_nil '"' _ :
        ∀ line ∈ members.map (memberText gap write), line ≠ [])
    rwa [List.length_map] at hle
  refine ⟨⟨'\x7b', _, rfl, rfl, by decide⟩, fun rest _ => ?_⟩
  have hshape : '\x7b' :: (blanks ++ (text ++ (ending ++ ['\x7d']))) ++ rest
      = '\x7b' :: (blanks ++ '"' :: (s ++ (ending ++ '\x7d' :: rest))) := by
    simp [hs]
  have hback : '"' :: (s ++ (ending ++ '\x7d' :: rest)) = text ++ (ending ++ '\x7d' :: rest) := by
    rw [hs, List.cons_append]
  rw [hshape, readValue?_brace hblanks, hback, readMembers?_joinWith hblanks hending hgap hspells
    hne (by rw [List.length_append]; omega) [] hnames]
  rfl

theorem isText_nothing : IsText ['[', ']'] (.array []) :=
  fun _ _ => ⟨⟨'[', _, rfl, rfl, by decide⟩, fun _ _ => rfl⟩

theorem isText_noMembers : IsText ['\x7b', '\x7d'] (.object []) :=
  fun _ _ => ⟨⟨'\x7b', _, rfl, rfl, by decide⟩, fun _ _ => rfl⟩

/-! ## Other values -/

theorem isText_null : IsText ['n', 'u', 'l', 'l'] .null :=
  fun _ _ => ⟨⟨'n', _, rfl, rfl, by decide⟩, fun _ _ => rfl⟩

theorem isText_bool (b : Bool) : IsText (writeBool b) (.bool b) := by
  intro depth _
  cases b with
  | true => exact ⟨⟨'t', _, rfl, rfl, by decide⟩, fun _ _ => rfl⟩
  | false => exact ⟨⟨'f', _, rfl, rfl, by decide⟩, fun _ _ => rfl⟩

theorem isText_string (s : String) : IsText (writeString s) (.string s) := by
  refine fun depth _ => ⟨⟨'"', _, rfl, rfl, by decide⟩, fun rest _ => ?_⟩
  have hshape : writeString s ++ rest = '"' :: (s.toList.flatMap writeChar ++ '"' :: rest) := by
    simp [writeString]
  rw [hshape, readValue?, readString?_append]
  rfl

/-- A number begins with a sign or a digit, and nothing else does. -/
theorem readValue?_of_number {c : Char} (h : c = '-' ∨ c.isDigit = true) (depth : Nat)
    (s : List Char) : readValue? (depth + 1) (c :: s) = readNumber? (c :: s) := by
  have hne : ∀ d, d ≠ '-' → d.isDigit = false → c ≠ d := by
    rintro d hsign hdigit rfl
    rcases h with rfl | h
    · exact hsign rfl
    · exact absurd (hdigit.symm.trans h) nofun
  rw [readValue?]
  all_goals
    intro _ heq
    exact absurd (List.cons.inj heq).1 (hne _ (by decide) (by decide))

theorem isText_integer {n : Int} (h : InRange n) : IsText (Text.integer n) (.integer n) := by
  intro depth _
  obtain ⟨c, s, hshape, hc⟩ : ∃ c s, Text.integer n = c :: s ∧ (c = '-' ∨ c.isDigit = true) := by
    rw [Text.integer]
    split
    · exact ⟨'-', _, rfl, .inl rfl⟩
    · obtain ⟨c, s, hdigits⟩ := List.exists_cons_of_ne_nil (Text.decimal_ne_nil n.natAbs)
      exact ⟨c, s, hdigits, .inr (Text.isDigit_of_mem_decimal (hdigits ▸ List.mem_cons_self))⟩
  refine ⟨⟨c, s, hshape, ?_⟩, fun rest hrest => ?_⟩
  · rcases hc with rfl | hc
    · exact ⟨rfl, by decide⟩
    · refine ⟨isSpace_of_isDigit hc, ?_⟩
      rintro rfl
      cases hc
  · rw [hshape, List.cons_append, readValue?_of_number hc, ← List.cons_append, ← hshape]
    exact readNumber?_integer h hrest

/-! ## Documents -/

/-- Whether a value can be written so that it comes back: whole numbers within 64 bits, no number
that is kept as its text, and no name twice in an object. -/
inductive Readable : Json → Prop where
  | null : Readable .null
  | bool (b : Bool) : Readable (.bool b)
  | integer (n : Int) (h : InRange n) : Readable (.integer n)
  | string (s : String) : Readable (.string s)
  | array (values : List Json) (h : ∀ v ∈ values, Readable v) : Readable (.array values)
  | object (members : List (String × Json)) (hnames : (members.map (·.1)).Nodup)
      (h : ∀ m ∈ members, Readable m.2) : Readable (.object members)

theorem compactElements_eq (values : List Json) :
    compactElements values = values.map writeCompact := by
  induction values with
  | nil => rfl
  | cons v values ih => rw [compactElements, ih, List.map_cons]

theorem compactMembers_eq (members : List (String × Json)) :
    compactMembers members = members.map (memberText [] writeCompact) := by
  induction members with
  | nil => rfl
  | cons m members ih =>
    rw [compactMembers, ih, List.map_cons]
    rfl

theorem prettyElements_eq (depth : Nat) (values : List Json) :
    prettyElements depth values = values.map (writePretty depth) := by
  induction values with
  | nil => rfl
  | cons v values ih => rw [prettyElements, ih, List.map_cons]

theorem prettyMembers_eq (depth : Nat) (members : List (String × Json)) :
    prettyMembers depth members = members.map (memberText [' '] (writePretty depth)) := by
  induction members with
  | nil => rfl
  | cons m members ih =>
    rw [prettyMembers, ih, List.map_cons]
    rfl

variable {j : Json}

theorem Readable.isText_compact (h : j.Readable) : IsText j.writeCompact j := by
  induction h with
  | null => exact isText_null
  | bool b => exact isText_bool b
  | integer n hn => exact isText_integer hn
  | string s => exact isText_string s
  | array values h ih =>
    cases values with
    | nil => exact isText_nothing
    | cons v values =>
      have htext := isText_array isSpaces_nil isSpaces_nil ih (List.cons_ne_nil v values)
      rw [writeCompact, compactElements_eq]
      exact htext
  | object members hnames h ih =>
    cases members with
    | nil => exact isText_noMembers
    | cons m members =>
      have htext := isText_object isSpaces_nil isSpaces_nil isSpaces_nil ih
        (List.cons_ne_nil m members) hnames
      rw [writeCompact, compactMembers_eq]
      exact htext

/-- Lines between brackets, as containers have them. -/
theorem enclose_of_ne_nil {lines : List (List Char)} (h : lines ≠ []) (opening closing : Char)
    (depth : Nat) : enclose opening closing depth lines
      = opening :: (lineStart (depth + 1) ++ (joinWith (',' :: lineStart (depth + 1)) lines
        ++ (lineStart depth ++ [closing]))) := by
  have hlines : lines.isEmpty = false := List.isEmpty_eq_false_iff.2 h
  simp [enclose, hlines]

theorem Readable.isText_pretty (h : j.Readable) (depth : Nat) : IsText (j.writePretty depth) j := by
  induction h generalizing depth with
  | null => exact isText_null
  | bool b => exact isText_bool b
  | integer n hn => exact isText_integer hn
  | string s => exact isText_string s
  | array values h ih =>
    cases values with
    | nil => exact isText_nothing
    | cons v values =>
      rw [writePretty, prettyElements_eq, enclose_of_ne_nil (by simp)]
      exact isText_array (isSpaces_lineStart _) (isSpaces_lineStart _)
        (fun w hw => ih w hw (depth + 1)) (List.cons_ne_nil v values)
  | object members hnames h ih =>
    cases members with
    | nil => exact isText_noMembers
    | cons m members =>
      have hgap : IsSpaces [' '] := by
        intro c hc
        rw [List.mem_singleton.1 hc]
        rfl
      rw [writePretty, prettyMembers_eq, enclose_of_ne_nil (by simp)]
      exact isText_object (isSpaces_lineStart _) (isSpaces_lineStart _) hgap
        (fun n hn => ih n hn (depth + 1)) (List.cons_ne_nil m members) hnames

/-- A document holds one value, with nothing but blanks behind it. -/
theorem IsText.read?_append {text : List Char} (h : IsText text j) {blanks : List Char}
    (hblanks : IsSpaces blanks) : read? (text ++ blanks) = some j := by
  have hspells := h (text ++ blanks).length (by rw [List.length_append]; omega)
  have hends : EndsNumber blanks := by
    have hends := hblanks.endsNumber_append endsNumber_nil
    rwa [List.append_nil] at hends
  rw [read?, (hspells.starts.append blanks).skipSpaces_eq, hspells.reads blanks hends]
  simp [skipSpaces_of_isSpaces hblanks]

theorem Readable.read?_compact (h : j.Readable) : read? j.compact.toList = some j := by
  have hread := h.isText_compact.read?_append isSpaces_nil
  simpa [compact] using hread

theorem Readable.read?_pretty (h : j.Readable) : read? j.pretty.toList = some j := by
  have hread := (h.isText_pretty 0).read?_append isSpaces_nil
  simpa [pretty] using hread

end RemoteFleet.Json
