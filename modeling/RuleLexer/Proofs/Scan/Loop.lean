import RuleLexer.Proofs.Scan.Singles

/-!
The scans as loops over what is left of a text, with their counters. Whenever
a loop cuts a text it does so at a byte, and at a byte where no character
starts it comes to nothing. It never does: the loop of the general scan makes
what is left shorter each time, cuts it at the ends of its segments only, and
comes to the outcome of the scan.
-/

namespace RuleLexer

/-- The error of an unknown character at a byte. The text is cut there, and again where the line
of the character starts. -/
def invalidToken? (text : List Char) (offset : Nat) (c : Char) : Option ScanError := do
  let (before, _) ← splitBytes? text offset
  let (_, line) ← splitBytes? before (lastLineStart before)
  some (.invalidToken c ⟨before.count '\n' + 1, line.length + 1⟩ offset)

theorem invalidToken?_append (before rest : List Char) (c : Char) :
    invalidToken? (before ++ rest) (byteLength before) c =
      some (.invalidToken c (.after before) (byteLength before)) := by
  simp [invalidToken?, splitBytes?_lastLineStart, Position.after_eq]

namespace Tokenizer

/-! ### The general scan -/

/-- What is left of the text, and what has come of the text before. -/
structure LoopState where
  rest : List Char
  result : ScanResult

/-- One time through the loop leads to another state or out of the loop. -/
inductive Iteration
  | next (s : LoopState)
  | exit (outcome : Except ScanError ScanResult)

def LoopState.start (text : List Char) : LoopState := ⟨text, .ofSegments .general []⟩

/-- The first so many characters of a text, cut off where the next one starts. -/
def window? (text : List Char) (chars : Nat) : Option (List Char) :=
  if chars < text.length then (splitBytes? text (byteLength (text.take chars))).map Prod.fst
  else some text

/-- The symbol at the start of a text and its number of bytes. An empty table is not looked into. -/
def symbolAt? (t : Tokenizer) (text : List Char) : Option (Option (Symbol × Nat)) :=
  if t.symbols.isEmpty then some none else (window? text t.window).map t.trie.lookup?

/-- Goes on after so many bytes, which are made a segment. -/
def advance? (result : ScanResult) (text : List Char) (bytes : Nat)
    (segment : List Char → Segment) : Option Iteration :=
  (splitBytes? text bytes).map fun (matched, rest) => .next ⟨rest, result.add (segment matched)⟩

/-- One time through the loop, or `none` if a text is cut where it cannot be. The number of bytes
before what is left is found by a subtraction. -/
def iterate? (t : Tokenizer) (text : List Char) (s : LoopState) : Option Iteration :=
  match s.rest.dropWhile fun c => t.ignored.contains c with
  | [] => some (.exit (.ok s.result))
  | first :: rest =>
    if byteLength text < byteLength (first :: rest) then none
    else
      let offset := byteLength text - byteLength (first :: rest)
      match t.symbolAt? (first :: rest) with
      | none => none
      | some (some (symbol, bytes)) => advance? s.result (first :: rest) bytes (.symbol symbol)
      | some none =>
        match ruleSegment? t.rules (first :: rest) with
        | .error fault => some (.exit (.error (.convert fault)))
        | .ok (some segment) =>
          advance? s.result (first :: rest) (byteLength segment.text) fun _ => segment
        | .ok none =>
          if t.suppressUnknown then
            advance? s.result (first :: rest) first.utf8Size fun _ => .unknown first
          else (invalidToken? text offset first).map fun e => .exit (.error e)

/-- So many times through the loop at most, or `none` if it is still not left then. -/
def loop? (t : Tokenizer) (text : List Char) :
    Nat → LoopState → Option (Except ScanError ScanResult)
  | 0, _ => none
  | n + 1, s =>
    match t.iterate? text s with
    | none => none
    | some (.next s) => loop? t text n s
    | some (.exit outcome) => some outcome

theorem window?_eq (text : List Char) (chars : Nat) :
    window? text chars = some (text.take chars) := by
  rw [window?]
  split
  · have hsplit := splitBytes?_append (text.take chars) (text.drop chars)
    rw [List.take_append_drop] at hsplit
    rw [hsplit]
    rfl
  · rw [List.take_of_length_le (by omega)]

theorem symbolAt?_eq (t : Tokenizer) (text : List Char) :
    t.symbolAt? text = some (t.trie.lookup? (text.take t.window)) := by
  rw [symbolAt?]
  split
  · rename_i hempty
    rw [SymbolTable.isEmpty, List.isEmpty_iff] at hempty
    rw [trie_eq, hempty]
    rfl
  · rw [window?_eq]
    rfl

theorem advance?_append (result : ScanResult) (matched rest : List Char)
    (segment : List Char → Segment) :
    advance? result (matched ++ rest) (byteLength matched) segment =
      some (.next ⟨rest, result.add (segment matched)⟩) := by
  rw [advance?, splitBytes?_append]
  rfl

/-- What is behind the ignored characters is looked at with its own text before it. -/
theorem iterate?_eq {t : Tokenizer} {text before rest : List Char} {first : Char} {s : LoopState}
    (hrest : s.rest.dropWhile (fun c => t.ignored.contains c) = first :: rest)
    (htext : text = before ++ first :: rest) :
    t.iterate? text s =
      match t.trie.lookup? ((first :: rest).take t.window) with
      | some (symbol, bytes) => advance? s.result (first :: rest) bytes (.symbol symbol)
      | none =>
        match ruleSegment? t.rules (first :: rest) with
        | .error fault => some (.exit (.error (.convert fault)))
        | .ok (some segment) =>
          advance? s.result (first :: rest) (byteLength segment.text) fun _ => segment
        | .ok none =>
          if t.suppressUnknown then
            advance? s.result (first :: rest) first.utf8Size fun _ => .unknown first
          else
            some (.exit (.error (.invalidToken first (.after before) (byteLength before)))) := by
  subst htext
  have hle : ¬ byteLength (before ++ first :: rest) < byteLength (first :: rest) := by
    rw [byteLength_append]
    omega
  have hoffset :
      byteLength (before ++ first :: rest) - byteLength (first :: rest) = byteLength before := by
    rw [byteLength_append, Nat.add_sub_cancel]
  simp only [iterate?, hrest, if_neg hle, hoffset, symbolAt?_eq, invalidToken?_append,
    Option.map_some]
  cases t.trie.lookup? ((first :: rest).take t.window) <;> rfl

/-- What the loop comes to where it has to stop. -/
def stop (result : ScanResult) (before : List Char) : Ending → Except ScanError ScanResult
  | .finished => .ok result
  | .invalid c => .error (.invalidToken c (.after before) (byteLength before))
  | .failed fault => .error (.convert fault)

theorem outcome_eq_stop (path : ScanPath) (segments : List Segment) (ending : Ending) :
    (Scan.mk segments ending).outcome path =
      stop (.ofSegments path segments) (segments.flatMap Segment.text) ending := by
  cases ending <;> rfl

/-- The ignored characters have been left behind. -/
theorem notMem_ignored_of_dropWhile {t : Tokenizer} {text rest : List Char} {c : Char}
    (h : text.dropWhile (fun c => t.ignored.contains c) = c :: rest) : c ∉ t.ignored := by
  have hhead := List.head?_dropWhile_not (fun c => t.ignored.contains c) text
  rw [h] at hhead
  simpa using hhead

/-- The loop goes on with what is left after the segment behind the ignored characters. -/
theorem iterate?_of_next {t : Tokenizer} {text before rest left : List Char} {s : LoopState}
    {segment : Segment} (hrest : s.rest.dropWhile (fun c => t.ignored.contains c) = rest)
    (htext : text = before ++ rest) (hnext : t.Next rest segment)
    (hleft : rest = segment.text ++ left) :
    t.iterate? text s = some (.next ⟨left, s.result.add segment⟩) := by
  cases hnext with
  | skipped hc => exact absurd hc (notMem_ignored_of_dropWhile hrest)
  | symbol hc hl =>
      rw [iterate?_eq hrest htext, Trie.lookup?, longest?_window_of_isLongest hl, hleft]
      exact advance?_append ..
  | rule hto hr hm hne hsegment =>
      rw [iterate?_eq hrest htext, Trie.lookup?, longest?_window_eq_none_iff.mpr hto.2,
        (ruleSegment?_of_reaches hr hm).1 hne _ hsegment, hleft]
      exact advance?_append ..
  | @unknown first _ hto hrules hs =>
      rw [iterate?_eq hrest htext, Trie.lookup?, longest?_window_eq_none_iff.mpr hto.2,
        ruleSegment?_of_passesOver hrules, hleft]
      simp only [Option.map_none, hs, if_true]
      exact advance?_append _ [first] left _

theorem iterate?_of_stops {t : Tokenizer} {text before rest : List Char} {s : LoopState}
    {ending : Ending} (hrest : s.rest.dropWhile (fun c => t.ignored.contains c) = rest)
    (htext : text = before ++ rest) (hstops : t.Stops rest ending) :
    t.iterate? text s = some (.exit (stop s.result before ending)) := by
  cases hstops with
  | finished =>
      rw [iterate?, hrest]
      rfl
  | invalid hto hrules hs =>
      rw [iterate?_eq hrest htext, Trie.lookup?, longest?_window_eq_none_iff.mpr hto.2,
        ruleSegment?_of_passesOver hrules]
      simp only [Option.map_none, hs]
      rfl
  | failed hto hr hm hfault =>
      rw [iterate?_eq hrest htext, Trie.lookup?, longest?_window_eq_none_iff.mpr hto.2,
        (ruleSegment?_of_reaches hr hm).2 _ hfault]
      rfl

/-- Behind the ignored characters of a text there is a segment, or the scan has to stop. -/
theorem exists_behind_ignored (t : Tokenizer) (text : List Char) :
    ∃ ignored rest : List Char, (∀ c ∈ ignored, c ∈ t.ignored) ∧ text = ignored ++ rest ∧
      text.dropWhile (fun c => t.ignored.contains c) = rest ∧
      ((∃ segment left, rest = segment.text ++ left ∧ t.Next rest segment) ∨
        ∃ ending, t.Stops rest ending) := by
  have hsplit := List.takeWhile_append_dropWhile (p := fun c => t.ignored.contains c) (l := text)
  refine ⟨text.takeWhile fun c => t.ignored.contains c, _, ?_, hsplit.symm, rfl, ?_⟩
  · intro c hc
    exact List.contains_iff_mem.mp (List.mem_takeWhile_imp hc)
  -- The end of the text is the one place where `next_or_stops` says nothing.
  cases text.dropWhile fun c => t.ignored.contains c with
  | nil => exact .inr ⟨.finished, .finished⟩
  | cons c rest =>
      obtain ⟨segment, hnext⟩ | hstops := t.next_or_stops c rest
      · obtain ⟨left, hleft⟩ := hnext.isPrefix
        exact .inl ⟨segment, left, hleft.symm, hnext⟩
      · exact .inr hstops

/-- The loop does not fail, and where it goes on, less of the text is left than before. -/
theorem iterate?_shortens (t : Tokenizer) {text : List Char} {s : LoopState}
    (h : s.rest <:+ text) :
    ∃ i, t.iterate? text s = some i ∧
      ∀ s', i = .next s' → s'.rest <:+ s.rest ∧ byteLength s'.rest < byteLength s.rest := by
  obtain ⟨before, hbefore⟩ := h
  obtain ⟨ignored, rest, -, hsplit, hrest, hcases⟩ := t.exists_behind_ignored s.rest
  have htext : text = before ++ ignored ++ rest := by
    rw [← hbefore, hsplit, List.append_assoc]
  obtain ⟨segment, left, hleft, hnext⟩ | ⟨ending, hstops⟩ := hcases
  · refine ⟨_, iterate?_of_next hrest htext hnext hleft, ?_⟩
    rintro s' ⟨⟩
    rw [hsplit, hleft]
    constructor
    · exact ⟨ignored ++ segment.text, by rw [List.append_assoc]⟩
    · have hpos := byteLength_pos hnext.text_ne_nil
      rw [byteLength_append, byteLength_append]
      show byteLength left < _
      omega
  · refine ⟨_, iterate?_of_stops hrest htext hstops, ?_⟩
    rintro s' ⟨⟩

/-! ### What a whole run comes to -/

/-- The text so far has been cut into these segments, and the counters are theirs. -/
structure LoopState.Follows (t : Tokenizer) (text : List Char) (s : LoopState)
    (segments : List Segment) : Prop where
  cuts : t.Cuts text segments s.rest
  result : s.result = .ofSegments .general segments

theorem LoopState.follows_start (t : Tokenizer) (text : List Char) :
    (LoopState.start text).Follows t text [] :=
  ⟨.nil, rfl⟩

/-- The ignored characters are segments too, which do not count. -/
theorem LoopState.Follows.next {t : Tokenizer} {text ignored left : List Char} {s : LoopState}
    {segments : List Segment} {segment : Segment} (h : s.Follows t text segments)
    (hignored : ∀ c ∈ ignored, c ∈ t.ignored) (hrest : s.rest = ignored ++ (segment.text ++ left))
    (hnext : t.Next (segment.text ++ left) segment) :
    LoopState.Follows t text ⟨left, s.result.add segment⟩
      (segments ++ ignored.map .skipped ++ [segment]) := by
  constructor
  · have hcuts := h.cuts
    rw [hrest] at hcuts
    exact (hcuts.append (.skipped hignored _)).append (.cons hnext rfl .nil)
  · rw [ScanResult.ofSegments_concat, ScanResult.ofSegments_append_skipped, ← h.result]

/-- Where the loop has to stop, so has the scan. -/
theorem LoopState.Follows.scanGeneral_eq {t : Tokenizer} {text ignored left : List Char}
    {s : LoopState} {segments : List Segment} {ending : Ending} (h : s.Follows t text segments)
    (hignored : ∀ c ∈ ignored, c ∈ t.ignored) (hrest : s.rest = ignored ++ left)
    (hstops : t.Stops left ending) :
    t.scanGeneral text = ⟨segments ++ ignored.map .skipped, ending⟩ := by
  have hcuts := h.cuts
  rw [hrest] at hcuts
  exact scanGeneral_of_cuts (hcuts.append (.skipped hignored left)) hstops

/-- The loop goes on along the segments of the text, with less of it left, or it comes to the
outcome of the scan. -/
theorem LoopState.Follows.iterate? {t : Tokenizer} {text : List Char} {s : LoopState}
    {segments : List Segment} (h : s.Follows t text segments) :
    ∃ ignored rest : List Char, s.rest.dropWhile (fun c => t.ignored.contains c) = rest ∧
      text = (segments ++ ignored.map Segment.skipped).flatMap Segment.text ++ rest ∧
      ((∃ s' segment, t.Next rest segment ∧ t.iterate? text s = some (.next s') ∧
          s'.Follows t text (segments ++ ignored.map .skipped ++ [segment]) ∧
          s'.rest.length < s.rest.length) ∨
        ∃ ending, t.Stops rest ending ∧
          t.scanGeneral text = ⟨segments ++ ignored.map .skipped, ending⟩ ∧
          t.iterate? text s = some (.exit ((t.scanGeneral text).outcome .general))) := by
  obtain ⟨ignored, rest, hignored, hsplit, hrest, hcases⟩ := t.exists_behind_ignored s.rest
  have htext :
      text = (segments ++ ignored.map Segment.skipped).flatMap Segment.text ++ rest := by
    rw [List.flatMap_append, Scan.flatMap_text_skipped, List.append_assoc, ← hsplit]
    exact h.cuts.covers
  refine ⟨ignored, rest, hrest, htext, ?_⟩
  obtain ⟨segment, left, rfl, hnext⟩ | ⟨ending, hstops⟩ := hcases
  · refine .inl ⟨_, segment, hnext, iterate?_of_next hrest htext hnext rfl,
      h.next hignored hsplit hnext, ?_⟩
    have hpos := List.length_pos_iff.mpr hnext.text_ne_nil
    rw [hsplit, List.length_append, List.length_append]
    show left.length < _
    omega
  · have hscan := h.scanGeneral_eq hignored hsplit hstops
    refine .inr ⟨ending, hstops, hscan, ?_⟩
    rw [iterate?_of_stops hrest htext hstops, hscan, outcome_eq_stop,
      ScanResult.ofSegments_append_skipped, ← h.result]

theorem LoopState.Follows.loop? {t : Tokenizer} {text : List Char} {s : LoopState}
    {segments : List Segment} {n : Nat} (h : s.Follows t text segments) (hn : s.rest.length < n) :
    t.loop? text n s = some ((t.scanGeneral text).outcome .general) := by
  induction n generalizing s segments with
  | zero => omega
  | succ n ih =>
      rw [Tokenizer.loop?]
      obtain ⟨_, _, -, -, ⟨s', _, -, hiterate, hfollows, hlt⟩ | ⟨_, -, -, hiterate⟩⟩ := h.iterate?
      · rw [hiterate]
        exact ih hfollows (by omega)
      · rw [hiterate]

/-! ### The fast path -/

/-- The loop of the fast path goes through the characters with the bytes at which they start. -/
def singlesLoop? (t : Tokenizer) (singles : List (Char × Symbol)) (text : List Char) :
    Nat → ScanResult → List Char → Option (Except ScanError ScanResult)
  | _, result, [] => some (.ok result)
  | offset, result, c :: rest =>
    if t.ignored.contains c then singlesLoop? t singles text (offset + c.utf8Size) result rest
    else match singles.find? fun entry => entry.1 == c with
      | some (_, s) =>
        singlesLoop? t singles text (offset + c.utf8Size) (result.add (.symbol s [c])) rest
      | none =>
        if t.suppressUnknown then
          singlesLoop? t singles text (offset + c.utf8Size) (result.add (.unknown c)) rest
        else (invalidToken? text offset c).map .error

/-- After some segments the loop comes to the outcome of these and of what is cut after them. -/
theorem singlesLoop?_eq (t : Tokenizer) (singles : List (Char × Symbol)) {text rest : List Char}
    (segments : List Segment) (htext : text = segments.flatMap Segment.text ++ rest) :
    t.singlesLoop? singles text (byteLength (segments.flatMap Segment.text))
        (.ofSegments .fast segments) rest =
      some ((Scan.mk (segments ++ (t.scanSingles singles rest).segments)
        (t.scanSingles singles rest).ending).outcome .fast) := by
  induction rest generalizing segments with
  | nil =>
      rw [singlesLoop?, scanSingles, List.append_nil, outcome_eq_stop]
      rfl
  | cons c rest ih =>
      have hgo (segment : Segment) (hc : segment.text = [c]) :
          t.singlesLoop? singles text (byteLength (segments.flatMap Segment.text) + c.utf8Size)
              ((ScanResult.ofSegments .fast segments).add segment) rest =
            some ((Scan.mk (segments ++ ((t.scanSingles singles rest).prepend segment).segments)
              (t.scanSingles singles rest).ending).outcome .fast) := by
        have htext' : text = (segments ++ [segment]).flatMap Segment.text ++ rest := by
          simp [htext, hc]
        have hrest := ih _ htext'
        rw [ScanResult.ofSegments_concat] at hrest
        simpa [hc] using hrest
      rw [singlesLoop?, scanSingles]
      by_cases hc : t.ignored.contains c
      · rw [if_pos hc, if_pos hc]
        exact hgo (.skipped c) rfl
      rw [if_neg hc, if_neg hc]
      cases singles.find? fun entry => entry.1 == c with
      | some entry => exact hgo (.symbol entry.2 [c]) rfl
      | none =>
          cases hs : t.suppressUnknown with
          | true => exact hgo (.unknown c) rfl
          | false =>
              simp only [Bool.false_eq_true, if_false]
              rw [htext, invalidToken?_append, outcome_eq_stop, List.append_nil]
              rfl

/-- The scan of a text by the loop of its path, which is left in time. -/
def scan? (t : Tokenizer) (text : List Char) : Option (Except ScanError ScanResult) :=
  match t.singles? with
  | some singles => t.singlesLoop? singles text 0 (.ofSegments .fast []) text
  | none => t.loop? text (text.length + 1) (.start text)

theorem scan?_eq (t : Tokenizer) (text : List Char) :
    t.scan? text = some ((t.scanText text).outcome t.path) := by
  rw [scan?, scanText, path]
  cases t.singles? with
  | some singles => exact t.singlesLoop?_eq singles [] rfl
  | none => exact (LoopState.follows_start t text).loop? (Nat.lt_succ_self _)

/-- No scan fails to come to an outcome. Each time through the loop of the general scan leaves fewer
bytes of the text or is the last one, so that the loop is left after at most one time for each
character and one more. A text can be cut at the valid positions of its UTF-8 encoding only, and
none of the loops cuts one elsewhere. -/
theorem scan?_total (t : Tokenizer) (text : List Char) :
    (∀ s : LoopState, s.rest <:+ text → ∃ i, t.iterate? text s = some i ∧
      ∀ s', i = .next s' → s'.rest <:+ s.rest ∧ byteLength s'.rest < byteLength s.rest) ∧
    t.loop? text (text.length + 1) (.start text) =
      some ((t.scanGeneral text).outcome .general) ∧
    t.scan? text = some ((t.scanText text).outcome t.path) ∧
    ∀ (sliced : List Char) (n : Nat),
      (splitBytes? sliced n).isSome ↔ (⟨n⟩ : String.Pos.Raw).IsValid (String.ofList sliced) := by
  refine ⟨fun s h => t.iterate?_shortens h, ?_, t.scan?_eq text, fun _ _ => isSome_splitBytes?_iff⟩
  exact (LoopState.follows_start t text).loop? (Nat.lt_succ_self _)

end Tokenizer

end RuleLexer
