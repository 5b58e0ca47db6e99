import Gearsonic.Control.TraceHeader
import Gearsonic.Control.TraceStop
import Gearsonic.Tools.ReadTrace

/-!
# The file reads back

`load` of a trace file returns the column names and the rows, whatever the rows' bytes are.

* `readHead_header`: the header ends at its own last line, since no line before it holds a `D`.
* `splitlines_joined`, `int_toDigits`: the lines and the count behind the header's text.
* `frombuffer_rowBytes`, `reshape_flatten`: the words and the rows behind it.
* `trace_lossless`: the ring, the file and `load` together.
-/

namespace Gearsonic

open StateTrace ReadTrace

namespace ReadTrace

/-! ## The header's bytes -/

/-- A printable ASCII character. -/
def Printable (c : Char) : Prop := 0x20 ≤ c.toNat ∧ c.toNat < 0x7f

instance (c : Char) : Decidable (Printable c) := inferInstanceAs (Decidable (_ ∧ _))

theorem Printable.not_lineBreak {c : Char} (h : Printable c) : isLineBreak c = false := by
  unfold isLineBreak
  rw [decide_eq_false_iff_not]
  intro hmem
  have hcode : c.toNat ∈ [10, 13, 11, 12, 28, 29, 30, 0x85, 0x2028, 0x2029] :=
    List.mem_map_of_mem (f := Char.toNat) hmem
  obtain ⟨hlow, hhigh⟩ := h
  simp only [List.mem_cons, List.not_mem_nil, or_false] at hcode
  omega

theorem textBytes_append (s t : List Char) : textBytes (s ++ t) = textBytes s ++ textBytes t :=
  List.flatMap_append

/-- An ASCII text is written as its codes. -/
theorem textBytes_ascii {text : List Char} (h : ∀ c ∈ text, c.toNat < 0x80) :
    textBytes text = text.map fun c => c.val.toUInt8 := by
  induction text with
  | nil => rfl
  | cons c text ih =>
    have hc : c.utf8Size = 1 := by
      rw [Char.utf8Size_eq_one_iff]
      have := h c List.mem_cons_self
      exact UInt32.le_iff_toNat_le.mpr (by simpa using Nat.le_of_lt_succ this)
    show String.utf8EncodeChar c ++ textBytes text = _
    rw [String.utf8EncodeChar_eq_singleton hc, ih fun d hd => h d (List.mem_cons_of_mem c hd)]
    rfl

/-- A byte of an ASCII text is the code of one of its characters. -/
theorem mem_textBytes {text : List Char} (h : ∀ c ∈ text, c.toNat < 0x80) {b : UInt8}
    (hb : b ∈ textBytes text) : ∃ c ∈ text, c.toNat = b.toNat := by
  rw [textBytes_ascii h] at hb
  obtain ⟨c, hc, rfl⟩ := List.mem_map.mp hb
  refine ⟨c, hc, ?_⟩
  have := h c hc
  show c.val.toNat = c.val.toNat % 2 ^ 8
  have hcode : c.val.toNat = c.toNat := rfl
  omega

theorem decode_textBytes (text : List Char) : decode (textBytes text) = some text := by
  unfold decode textBytes
  have h : (text.flatMap String.utf8EncodeChar).toByteArray.utf8Decode? = some text.toArray :=
    List.utf8Decode?_utf8Encode
  rw [h]
  rfl

/-! ## Finding the header -/

theorem readline_line {line : List UInt8} (hline : 10 ∉ line) (rest : List UInt8) :
    readline (line ++ 10 :: rest) = (line ++ [10], rest) := by
  induction line with
  | nil => rfl
  | cons b line ih =>
    have hb : b ≠ 10 := fun h => hline (h ▸ List.mem_cons_self)
    have hrest : 10 ∉ line := fun h => hline (List.mem_cons_of_mem b h)
    rw [List.cons_append, readline, if_neg hb, ih hrest]
    rfl

theorem readHead_closed {head : List UInt8} (h : endMarker <:+ head) (rest : List UInt8) :
    readHead head rest = some (head, rest) := by
  rw [readHead, if_pos h]

theorem readHead_open {head line : List UInt8} (h : 68 ∉ head) (hline : 10 ∉ line)
    (rest : List UInt8) :
    readHead head (line ++ 10 :: rest) = readHead (head ++ (line ++ [10])) rest := by
  have hopen : ¬ endMarker <:+ head := fun hend => h (hend.mem (by decide))
  have hchunk : line ++ [10] ≠ [] := List.append_ne_nil_of_right_ne_nil line (by decide)
  rw [readHead, if_neg hopen, readline_line hline, dif_neg hchunk]

/-- A line of the header before the last. -/
def HeaderLine (line : List Char) : Prop := ∀ c ∈ line, Printable c ∧ c ≠ 'D'

instance (line : List Char) : Decidable (HeaderLine line) := List.decidableBAll _ _

theorem HeaderLine.bytes {line : List Char} (h : HeaderLine line) :
    10 ∉ textBytes line ∧ 68 ∉ textBytes line := by
  have hascii : ∀ c ∈ line, c.toNat < 0x80 := fun c hc => by
    have := (h c hc).1.2
    omega
  constructor
  · intro hmem
    obtain ⟨c, hc, hcode⟩ := mem_textBytes hascii hmem
    have hlow := (h c hc).1.1
    have hten : c.toNat = 10 := hcode
    omega
  · intro hmem
    obtain ⟨c, hc, hcode⟩ := mem_textBytes hascii hmem
    exact (h c hc).2 (Char.toNat_inj.mp hcode)

/-- Lines, each with its newline. -/
def joined (lines : List (List Char)) : List Char := lines.flatMap fun line => line ++ ['\n']

theorem readHead_lines {lines : List (List Char)} (hlines : ∀ line ∈ lines, HeaderLine line)
    {head : List UInt8} (hhead : 68 ∉ head) (rest : List UInt8) :
    68 ∉ head ++ textBytes (joined lines) ∧
      readHead head (textBytes (joined lines) ++ rest) =
        readHead (head ++ textBytes (joined lines)) rest := by
  induction lines generalizing head with
  | nil => exact ⟨by simpa [joined, textBytes] using hhead, by simp [joined, textBytes]⟩
  | cons line lines ih =>
    obtain ⟨hten, hmarker⟩ := (hlines line List.mem_cons_self).bytes
    have hjoined : textBytes (joined (line :: lines)) =
        textBytes line ++ 10 :: textBytes (joined lines) := by
      show textBytes ((line ++ ['\n']) ++ joined lines) = _
      rw [textBytes_append, textBytes_append, List.append_assoc]
      rfl
    have hhead' : 68 ∉ head ++ (textBytes line ++ [10]) := by
      simp only [List.mem_append, List.mem_singleton, not_or]
      exact ⟨hhead, hmarker, by decide⟩
    obtain ⟨hopen, hread⟩ := ih (fun l hl => hlines l (List.mem_cons_of_mem line hl)) hhead'
    have hassoc : head ++ (textBytes line ++ [10]) ++ textBytes (joined lines) =
        head ++ textBytes (joined (line :: lines)) := by
      rw [hjoined, List.append_assoc, List.append_assoc]
      rfl
    rw [hassoc] at hopen hread
    refine ⟨hopen, ?_⟩
    rw [← hread, hjoined, List.append_assoc, List.cons_append, readHead_open hhead hten]

/-- The header ends at its last line, whatever bytes follow. -/
theorem readHead_header {lines : List (List Char)} (hlines : ∀ line ∈ lines, HeaderLine line)
    (rest : List UInt8) :
    readHead [] (textBytes (joined (lines ++ ["END".toList])) ++ rest) =
      some (textBytes (joined (lines ++ ["END".toList])), rest) := by
  have hjoined : textBytes (joined (lines ++ ["END".toList])) =
      textBytes (joined lines) ++ [69, 78, 68, 10] := by
    unfold joined
    rw [List.flatMap_append, textBytes_append]
    rfl
  obtain ⟨hopen, hread⟩ := readHead_lines hlines (List.not_mem_nil) ([69, 78, 68, 10] ++ rest)
  rw [List.nil_append] at hopen hread
  rw [hjoined, List.append_assoc, hread]
  have hlast : readHead (textBytes (joined lines)) ([69, 78, 68] ++ 10 :: rest) =
      readHead (textBytes (joined lines) ++ ([69, 78, 68] ++ [10])) rest :=
    readHead_open hopen (by decide) rest
  have hend : endMarker <:+ textBytes (joined lines) ++ ([69, 78, 68] ++ [10]) :=
    List.suffix_append _ _
  exact hlast.trans (readHead_closed hend rest)

/-! ## Its lines -/

theorem splitlinesFrom_line {line : List Char} (hline : ∀ c ∈ line, Printable c)
    (front rest : List Char) :
    splitlinesFrom front (line ++ '\n' :: rest) = (front ++ line) :: splitlinesFrom [] rest := by
  induction line generalizing front with
  | nil =>
    rw [List.nil_append, List.append_nil, splitlinesFrom]
    · rfl
    · intro _ h
      cases h
  | cons c line ih =>
    have hc := hline c List.mem_cons_self
    rw [List.cons_append, splitlinesFrom]
    · rw [hc.not_lineBreak, if_neg Bool.false_ne_true,
        ih fun d hd => hline d (List.mem_cons_of_mem c hd), List.append_assoc]
      rfl
    · intro _ h
      cases h
      exact absurd hc (by decide)

theorem splitlines_joined {lines : List (List Char)}
    (hlines : ∀ line ∈ lines, ∀ c ∈ line, Printable c) : splitlines (joined lines) = lines := by
  unfold splitlines
  induction lines with
  | nil => rfl
  | cons line lines ih =>
    show splitlinesFrom [] ((line ++ ['\n']) ++ joined lines) = _
    rw [List.append_assoc, List.singleton_append,
      splitlinesFrom_line (hlines line List.mem_cons_self),
      ih fun l hl => hlines l (List.mem_cons_of_mem line hl)]
    rfl

/-! ## The column count -/

theorem digits_toDigits (n : Nat) : digits (Nat.toDigits 10 n) = some n := by
  have hgroup : (!(Nat.toDigits 10 n).isEmpty && (Nat.toDigits 10 n).all Char.isDigit) = true := by
    rw [Bool.and_eq_true, Bool.not_eq_true', List.isEmpty_eq_false_iff, List.all_eq_true]
    exact ⟨Nat.toDigits_ne_nil,
      fun c hc => Nat.isDigit_of_mem_toDigits (by decide) (by decide) hc⟩
  unfold digits
  rw [List.splitOn_eq_singleton Nat.underscore_not_in_toDigits]
  dsimp only
  rw [List.all_cons, List.all_nil, hgroup, Bool.and_self, if_pos rfl, List.flatten_singleton,
    Nat.ofDigitChars_ten_toDigits]

theorem Digit.printable {c : Char} (h : c.isDigit) : 48 ≤ c.toNat ∧ c.toNat ≤ 57 := by
  rw [Char.isDigit, Bool.and_eq_true, decide_eq_true_iff, decide_eq_true_iff] at h
  exact ⟨UInt32.le_iff_toNat_le.mp h.1, UInt32.le_iff_toNat_le.mp h.2⟩

theorem Digit.not_space {c : Char} (h : c.isDigit) : isSpace c = false := by
  obtain ⟨hlow, hhigh⟩ := Digit.printable h
  unfold isSpace
  rw [decide_eq_false_iff_not]
  intro hmem
  have hcode : c.toNat ∈ [32, 9, 10, 11, 12, 13, 28, 29, 30, 31] :=
    List.mem_map_of_mem (f := Char.toNat) hmem
  simp only [List.mem_cons, List.not_mem_nil, or_false] at hcode
  omega

theorem dropWhile_digits {text : List Char} (h : ∀ c ∈ text, c.isDigit) :
    text.dropWhile isSpace = text := by
  cases text with
  | nil => rfl
  | cons c text => rw [List.dropWhile_cons, Digit.not_space (h c List.mem_cons_self)]; rfl

theorem int_toDigits (n : Nat) : int (Nat.toDigits 10 n) = some (n : Int) := by
  have hdigit : ∀ c ∈ Nat.toDigits 10 n, c.isDigit := fun c hc =>
    Nat.isDigit_of_mem_toDigits (by decide) (by decide) hc
  have hstrip : (((Nat.toDigits 10 n).dropWhile isSpace).reverse.dropWhile isSpace).reverse =
      Nat.toDigits 10 n := by
    rw [dropWhile_digits hdigit,
      dropWhile_digits fun c hc => hdigit c (List.mem_reverse.mp hc), List.reverse_reverse]
  have hdigits := digits_toDigits n
  unfold int
  rw [hstrip]
  split
  · next ds hds =>
    have hsign := hdigit '+' (hds ▸ List.mem_cons_self)
    exact absurd hsign (by decide)
  · next ds hds =>
    have hsign := hdigit '-' (hds ▸ List.mem_cons_self)
    exact absurd hsign (by decide)
  · rw [hdigits]
    rfl

/-! ## The rows -/

theorem word_wordBytes (w : BitVec 32) (rest : List UInt8) :
    frombuffer (wordBytes w ++ rest) = (frombuffer rest).map (w :: ·) := by
  have hword : BitVec.ofNat 32 (w.toNat % 2 ^ 8 + 2 ^ 8 * (w.toNat / 2 ^ 8 % 2 ^ 8) +
      2 ^ 16 * (w.toNat / 2 ^ 16 % 2 ^ 8) + 2 ^ 24 * (w.toNat / 2 ^ 24 % 2 ^ 8)) = w := by
    apply BitVec.eq_of_toNat_eq
    rw [BitVec.toNat_ofNat]
    have := w.isLt
    omega
  exact congrArg (fun v => (frombuffer rest).map (v :: ·)) hword

theorem frombuffer_rowBytes (rows : List (List (BitVec 32))) :
    frombuffer (rowBytes rows) = some rows.flatten := by
  unfold rowBytes
  induction rows.flatten with
  | nil => rfl
  | cons w words ih =>
    rw [List.flatMap_cons, word_wordBytes, ih]
    rfl

theorem length_flatten_rows {rows : List (List (BitVec 32))} {n : Nat}
    (hrows : ∀ row ∈ rows, row.length = n) : rows.flatten.length = rows.length * n := by
  induction rows with
  | nil => simp
  | cons row rows ih =>
    rw [List.flatten_cons, List.length_append, hrows row List.mem_cons_self,
      ih fun r hr => hrows r (List.mem_cons_of_mem row hr), List.length_cons, Nat.succ_mul]
    omega

theorem reshape_flatten {rows : List (List (BitVec 32))} {n : Nat}
    (hrows : ∀ row ∈ rows, row.length = n) : reshape rows.flatten rows.length n = rows := by
  unfold reshape
  induction rows with
  | nil => rfl
  | cons row rows ih =>
    have hrow := hrows row List.mem_cons_self
    have hrest : ∀ i, ((row :: rows).flatten.drop ((i + 1) * n)).take n =
        (rows.flatten.drop (i * n)).take n := by
      intro i
      rw [List.flatten_cons, Nat.succ_mul, Nat.add_comm, ← hrow, List.drop_length_add_append]
    rw [List.length_cons, List.range_succ_eq_map, List.map_cons, List.map_map]
    refine congrArg₂ List.cons ?_ ?_
    · rw [Nat.zero_mul, List.drop_zero, List.flatten_cons, ← hrow, List.take_left]
    · exact (List.map_congr_left fun i _ => hrest i).trans
        (ih fun r hr => hrows r (List.mem_cons_of_mem row hr))

/-! ## The file -/

/-- Names as the trace has them: no comma, and nothing that `load` could take for a line's or
the header's end. -/
def PlainNames (columns : List String) : Prop :=
  ∀ name ∈ columns, ∀ c ∈ name.toList, Printable c ∧ c ≠ 'D' ∧ c ≠ ','

instance (columns : List String) : Decidable (PlainNames columns) :=
  have (name : String) : Decidable (∀ c ∈ name.toList, Printable c ∧ c ≠ 'D' ∧ c ≠ ',') :=
    List.decidableBAll _ _
  List.decidableBAll _ _

theorem PlainNames.append {names names' : List String} (h : PlainNames names)
    (h' : PlainNames names') : PlainNames (names ++ names') := by
  intro name hname
  rcases List.mem_append.mp hname with hname | hname
  · exact h name hname
  · exact h' name hname

theorem Digit.plain {c : Char} (h : c.isDigit) : Printable c ∧ c ≠ 'D' ∧ c ≠ ',' := by
  have hdigit := Digit.printable h
  refine ⟨⟨by omega, by omega⟩, ?_, ?_⟩
  · rintro rfl
    exact absurd hdigit (by decide)
  · rintro rfl
    exact absurd hdigit (by decide)

/-- A number after a plain name leaves it plain. -/
theorem plainNames_addn {name : String} (h : PlainNames [name, "_"]) (k : Nat) :
    PlainNames (addn name k) := by
  intro column hcolumn c hc
  obtain ⟨i, -, rfl⟩ := List.mem_map.mp hcolumn
  rw [String.toList_append, String.toList_append, Nat.toString_eq_repr, Nat.toList_repr,
    List.mem_append, List.mem_append] at hc
  rcases hc with (hc | hc) | hc
  · exact h name List.mem_cons_self c hc
  · exact h "_" (List.mem_cons_of_mem name List.mem_cons_self) c hc
  · exact Digit.plain (Nat.isDigit_of_mem_toDigits (by decide) (by decide) hc)

theorem stateTraceColumns_plain : PlainNames stateTraceColumns := by
  unfold stateTraceColumns
  repeat' apply PlainNames.append
  all_goals first
    | exact plainNames_addn (by decide) _
    | decide

theorem mem_intercalate {x c : Char} {names : List (List Char)}
    (h : c ∈ [x].intercalate names) : c = x ∨ ∃ name ∈ names, c ∈ name := by
  induction names with
  | nil => cases h
  | cons name names ih =>
    by_cases hlast : names = []
    · rw [hlast, List.intercalate_singleton] at h
      exact .inr ⟨name, List.mem_cons_self, h⟩
    · rw [List.intercalate_cons_of_ne_nil hlast, List.append_assoc, List.mem_append,
        List.mem_append, List.mem_singleton] at h
      rcases h with h | h | h
      · exact .inr ⟨name, List.mem_cons_self, h⟩
      · exact .inl h
      · rcases ih h with hx | ⟨n, hn, hc⟩
        · exact .inl hx
        · exact .inr ⟨n, List.mem_cons_of_mem name hn, hc⟩

/-- Every line of the header but its last. -/
theorem headerLines_plain {columns : List String} (h : PlainNames columns) :
    ∀ line ∈ (headerLines columns).take 4, HeaderLine line := by
  intro line hline c hc
  have hcases : line = "STATETRACE v1".toList ∨
      line = "columns=".toList ++ Nat.toDigits 10 columns.length ∨
      line = "rate_hz=50".toList ∨ line = [','].intercalate (columns.map String.toList) := by
    simpa [headerLines] using hline
  rcases hcases with rfl | rfl | rfl | rfl
  · exact (by decide : HeaderLine "STATETRACE v1".toList) c hc
  · rcases List.mem_append.mp hc with hc | hc
    · exact (by decide : HeaderLine "columns=".toList) c hc
    · obtain ⟨hprint, hend, -⟩ :=
        Digit.plain (Nat.isDigit_of_mem_toDigits (by decide) (by decide) hc)
      exact ⟨hprint, hend⟩
  · exact (by decide : HeaderLine "rate_hz=50".toList) c hc
  · rcases mem_intercalate hc with rfl | ⟨text, htext, hc⟩
    · decide
    · obtain ⟨name, hname, rfl⟩ := List.mem_map.mp htext
      exact ⟨(h name hname c hc).1, (h name hname c hc).2.1⟩

theorem load_file {columns : List String} (h : PlainNames columns) (hne : columns ≠ [])
    {rows : List (List (BitVec 32))} (hrows : ∀ row ∈ rows, row.length = columns.length) :
    load (header columns ++ rowBytes rows) = .ok ⟨columns, rows⟩ := by
  have hlines := headerLines_plain h
  have hheader : header columns =
      textBytes (joined ((headerLines columns).take 4 ++ ["END".toList])) := rfl
  have hsplit : splitlines (joined ((headerLines columns).take 4 ++ ["END".toList])) =
      headerLines columns := by
    refine splitlines_joined fun line hline c hc => ?_
    rcases List.mem_append.mp hline with hline | hline
    · exact (hlines line hline c hc).1
    · have hend : "END".toList.all (fun c => decide (Printable c)) = true := by decide
      rw [List.mem_singleton.mp hline] at hc
      exact of_decide_eq_true (List.all_eq_true.mp hend c hc)
  have hcount : ("columns=".toList ++ Nat.toDigits 10 columns.length).splitOn '=' =
      ["columns".toList, Nat.toDigits 10 columns.length] := by
    have hdigits : '=' ∉ Nat.toDigits 10 columns.length := fun hmem =>
      absurd (Nat.isDigit_of_mem_toDigits (by decide) (by decide) hmem) (by decide)
    show ("columns".toList ++ '=' :: Nat.toDigits 10 columns.length).splitOn '=' = _
    rw [List.splitOn_append_cons_self_of_not_mem (by decide), List.splitOn_eq_singleton hdigits]
  have hnames : ([','].intercalate (columns.map String.toList)).splitOn ',' =
      columns.map String.toList := by
    refine List.splitOn_intercalate ',' ?_ (by simpa using hne)
    intro text htext hcomma
    obtain ⟨name, hname, rfl⟩ := List.mem_map.mp htext
    exact (h name hname ',' hcomma).2.2 rfl
  have hmagic : (headerLines columns)[0]? = some "STATETRACE v1".toList := rfl
  have hsecond : (headerLines columns)[1]? =
      some ("columns=".toList ++ Nat.toDigits 10 columns.length) := rfl
  have hfourth : (headerLines columns)[3]? =
      some ([','].intercalate (columns.map String.toList)) := rfl
  have hcolumns : (columns.map String.toList).map String.ofList = columns := by
    rw [List.map_map]
    exact (List.map_congr_left fun name _ => String.ofList_toList).trans (List.map_id columns)
  have hdiv : rows.flatten.length / columns.length = rows.length := by
    rw [length_flatten_rows hrows]
    exact Nat.mul_div_cancel _ (List.length_pos_iff.mpr hne)
  unfold load
  rw [hheader, readHead_header hlines]
  simp only [Option.elim_some, bind, Except.bind, decode_textBytes, hsplit, hmagic, hsecond,
    hfourth, hcount, List.getElem?_cons_succ, List.getElem?_cons_zero, int_toDigits, hnames,
    List.length_map, frombuffer_rowBytes, hcolumns, hdiv, reshape_flatten hrows, ne_eq,
    not_true_eq_false, if_false]
  rfl

end ReadTrace

namespace StateTrace

/-- The trace is the accepted rows: over every interleaving, for any number of rows. -/
theorem trace_lossless (blank : Row) :
    (∀ s : StateTrace Row, Transition.Reachable step Transition.Always (started blank) s →
      (∀ row head tail, s.producer = .tailRead row head tail → (head - tail).toNat < kRing →
        ∀ k, s.released ≤ k → k < s.accepted.length → slot head.toNat ≠ slot k) ∧
      s.file <+: s.accepted ∧
      s.calls = s.accepted.length + s.drops + s.busy ∧
      s.dropped = Numeric.counter 32 s.drops ∧
      load (fileBytes s.file) = .ok ⟨stateTraceColumns, s.file.map Vector.toList⟩) ∧
    (∀ s : StateTrace Row, Transition.Reachable step NoOverlap (started blank) s →
      (s.stopper = .returned → s.file = s.accepted) ∧
      (s.stopper ≠ .notCalled → ∃ t, Transition.Reachable step Closing s t ∧
        t.stopper = .returned ∧ t.file = t.accepted)) := by
  constructor
  · intro s hs
    have hinv := TraceInv.of_reachable hs
    refine ⟨?_, hinv.file, hinv.calls, hinv.dropped, ?_⟩
    · intro row head tail hp hroom k hk hlt
      obtain ⟨hhead, hclose⟩ := hinv.free hp hroom
      rw [hhead, slot_counter]
      apply Ne.symm
      apply slot_ne hlt
      omega
    · apply load_file stateTraceColumns_plain (by decide)
      intro row hrow
      obtain ⟨r, -, rfl⟩ := List.mem_map.mp hrow
      exact r.length_toList
  · intro s hs
    exact ⟨file_eq_accepted hs, stop_returns hs⟩

instance (s : StateTrace Row) : ∀ a, Decidable (NoOverlap s a)
  | .record _ => inferInstanceAs (Decidable (s.stopper = .notCalled))
  | .stopCall => match h : s.producer with
    | .idle => .isTrue (by unfold NoOverlap; rw [h]; trivial)
    | .called _ | .headRead _ _ | .tailRead _ _ _ | .filled _ _ =>
      .isFalse (by unfold NoOverlap; rw [h]; exact id)
  | .produce | .write | .stopping => .isTrue trivial

/-- One row, the writer's pass over it, and `stop`. -/
theorem trace_lossless_stopped : ∃ s : StateTrace Row,
    s.stopper = .returned ∧ s.file.length = 1 ∧ s.file = s.accepted ∧
      load (fileBytes s.file) = .ok ⟨stateTraceColumns, s.file.map Vector.toList⟩ := by
  let blank : Row := Vector.replicate numColumns 0
  let acts : List (Act Row) :=
    [.record (Vector.replicate numColumns 1), .produce, .produce, .produce, .produce, .stopCall,
      .stopping, .write, .stopping, .write, .write, .write, .write, .write, .stopping]
  have hclean : Transition.Along step NoOverlap (started blank) acts := by decide +kernel
  have hend : (Transition.run step (started blank) acts).any
      (fun s => s.stopper = .returned && s.file.length = 1) = true := by decide +kernel
  cases hrun : Transition.run step (started blank) acts with
  | none => rw [hrun] at hend; cases hend
  | some s =>
    have hreach := Transition.reachable_of_along hclean hrun
    have hcheck : s.stopper = .returned ∧ s.file.length = 1 := by
      rw [hrun] at hend
      simpa using hend
    have hall := trace_lossless blank
    exact ⟨s, hcheck.1, hcheck.2, (hall.2 s hreach).1 hcheck.1,
      (hall.1 s (Transition.reachable_of_run hrun)).2.2.2.2⟩

end StateTrace

end Gearsonic
