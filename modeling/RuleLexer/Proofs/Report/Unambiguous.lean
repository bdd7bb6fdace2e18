import Mathlib.Data.List.Forall2
import RuleLexer.Proofs.Report.Alike

/-!
A report without color tells the input and the tokens. Each of its lines is of a
kind that the first characters show, and only one entry is shown by a line, so
that the lines give back the entries, and these the tokens. The time that a scan
took is left out where two reports are compared.
-/

namespace RuleLexer

namespace Report

/-! ### Lines -/

/-- What lines of a report tell. -/
inductive Entry
  | input (text : String)
  | heading (title : String)
  /-- A line of the input begins. -/
  | line
  | token (t : Token)

namespace Entry

def Alike : Entry → Entry → Prop
  | input a, input b => a = b
  | heading a, heading b => a = b
  | line, line => True
  | token t, token u => t.Alike u
  | _, _ => False

inductive Kind
  | input | heading | line | token

def kind : Entry → Kind
  | input _ => .input
  | heading _ => .heading
  | line => .line
  | token _ => .token

end Entry

def titles : List String := ["━━━ Tokens ━━━", "━━━ Scan ━━━", "━━━ Lines ━━━"]

/-- The line of an entry, or a line that tells of no entry. -/
inductive Shows : Option Entry → String → Prop
  | blank : Shows none ""
  | noTokens : Shows none "  No tokens produced"
  | noLines : Shows none "  No lines"
  | emptyLine : Shows none ("    " ++ "(empty)")
  | counts (m : ScanMetrics) : Shows none (counts false m)
  | total (nanoseconds : Nat) : Shows none ("  Total: " ++ duration nanoseconds)
  | input (text : String) : Shows (some (.input text)) ("⚙  Tokenizing: " ++ quoteString text)
  | heading {title : String} (h : title ∈ titles) : Shows (some (.heading title)) title
  | line (number : Nat) : Shows (some .line) ("  " ++ ("line " ++ number.repr))
  | numbered (i : Nat) (t : Token) :
    Shows (some (.token t)) ("  " ++ ("[" ++ i.repr ++ "]") ++ " " ++ token false t)
  | indented (t : Token) : Shows (some (.token t)) ("    " ++ token false t)

/-- The lines of a report that shows these entries in order. -/
inductive SetsOut : List Entry → List String → Prop
  | nil : SetsOut [] []
  | frame {line : String} {entries : List Entry} {lines : List String} (hline : Shows none line)
      (h : SetsOut entries lines) : SetsOut entries (line :: lines)
  | entry {line : String} {e : Entry} {entries : List Entry} {lines : List String}
      (hline : Shows (some e) line) (h : SetsOut entries lines) :
      SetsOut (e :: entries) (line :: lines)

/-! ### The time taken -/

def totalMark : List Char := [' ', ' ', 'T', 'o', 't', 'a', 'l', ':', ' ']

/-- The line without the time, if it is the one that tells it. -/
def maskLine (line : List Char) : List Char :=
  if totalMark.isPrefixOf line then totalMark ++ "<elapsed>".toList else line

/-- The text without the time. -/
def masked (text : List Char) : List Char :=
  ['\n'].intercalate ((text.splitOn '\n').map maskLine)

/-! ### Kinds -/

def kind? (line : List Char) : Option Entry.Kind :=
  match line.take 3 with
  | ['⚙', ' ', ' '] => some .input
  | ['━', '━', '━'] => some .heading
  | [' ', ' ', 'l'] => some .line
  | [' ', ' ', '['] => some .token
  | [' ', ' ', ' '] => if line.getLast? = some ')' then none else some .token
  | _ => none

theorem kind?_maskLine (line : List Char) : kind? (maskLine line) = kind? line := by
  unfold maskLine
  split
  case isTrue h =>
    obtain ⟨rest, rfl⟩ := List.isPrefixOf_iff_prefix.mp h
    rfl
  case isFalse => rfl

theorem maskLine_of_kind? {line : List Char} {k : Entry.Kind} (h : kind? line = some k) :
    maskLine line = line := by
  refine if_neg fun hmark => ?_
  obtain ⟨rest, rfl⟩ := List.isPrefixOf_iff_prefix.mp hmark
  cases h

theorem exists_counts (m : ScanMetrics) : ∃ rest, counts false m = "  Path: " ++ rest := by
  unfold counts
  simp only [String.append_assoc]
  exact exists_apply_eq_apply' _ _

theorem toList_numbered (i : Nat) (text : String) :
    ("  " ++ ("[" ++ i.repr ++ "]") ++ " " ++ text).toList =
      ' ' :: ' ' :: '[' :: (i.repr.toList ++ ']' :: ' ' :: text.toList) := by
  simp only [String.toList_append, List.append_assoc]
  rfl

theorem kind?_indented (t : Token) : kind? ("    " ++ token false t).toList = some .token := by
  have hlast : ("    " ++ token false t).toList.getLast? ≠ some ')' := by
    rw [String.toList_append, List.getLast?_append]
    obtain h | h := getLast?_token t <;> simp [h]
  have htake : ("    " ++ token false t).toList.take 3 = [' ', ' ', ' '] := by
    rw [String.toList_append]
    rfl
  rw [kind?, htake]
  exact if_neg hlast

theorem Shows.kind?_eq {o : Option Entry} {line : String} (h : Shows o line) :
    kind? line.toList = o.map Entry.kind := by
  cases h with
  | blank | noTokens | noLines | emptyLine => rfl
  | counts m =>
      obtain ⟨rest, hrest⟩ := exists_counts m
      rw [hrest, String.toList_append]
      rfl
  | total n =>
      rw [String.toList_append]
      rfl
  | input text =>
      rw [String.toList_append]
      rfl
  | heading h =>
      simp only [titles, List.mem_cons, List.not_mem_nil, or_false] at h
      obtain rfl | rfl | rfl := h <;> rfl
  | line n =>
      rw [String.toList_append, String.toList_append]
      rfl
  | numbered i t =>
      rw [toList_numbered]
      rfl
  | indented t => exact kind?_indented t

/-! ### What lines tell -/

theorem notMem_bracket (n : Nat) : ']' ∉ n.repr.toList := by
  rw [Nat.toList_repr]
  exact fun hmem => absurd (isDigit_of_mem_toDigits hmem) (by decide)

theorem numbered_inj {i j : Nat} {a b : String}
    (h : "  " ++ ("[" ++ i.repr ++ "]") ++ " " ++ a = "  " ++ ("[" ++ j.repr ++ "]") ++ " " ++ b) :
    a = b := by
  have hlist := congrArg String.toList h
  simp only [toList_numbered, List.cons.injEq, true_and] at hlist
  have hrest := (eq_of_append_cons (notMem_bracket i) (notMem_bracket j) hlist).2
  exact String.toList_inj.mp (List.cons.inj hrest).2

theorem numbered_ne_indented (i : Nat) (a b : String) :
    "  " ++ ("[" ++ i.repr ++ "]") ++ " " ++ a ≠ "    " ++ b := by
  intro h
  have hlist := congrArg String.toList h
  rw [toList_numbered, String.toList_append] at hlist
  exact absurd (List.cons.inj (List.cons.inj (List.cons.inj hlist).2).2).1 (by decide)

theorem Shows.alike_of_kind_eq {e e' : Entry} {line line' : String} (h : Shows (some e) line)
    (h' : Shows (some e') line') (hkind : e.kind = e'.kind) (hline : line = line') :
    e.Alike e' := by
  cases h with
  | input text =>
      cases h' with
      | input text' => exact quoteString_inj ((String.append_right_inj _).mp hline)
      | _ => cases hkind
  | heading _ =>
      cases h' with
      | heading _ => exact hline
      | _ => cases hkind
  | line _ =>
      cases h' with
      | line _ => trivial
      | _ => cases hkind
  | numbered i t =>
      cases h' with
      | numbered j u => exact alike_of_token_eq (numbered_inj hline)
      | indented u => exact absurd hline (numbered_ne_indented _ _ _)
      | _ => cases hkind
  | indented t =>
      cases h' with
      | numbered j u => exact absurd hline.symm (numbered_ne_indented _ _ _)
      | indented u => exact alike_of_token_eq ((String.append_right_inj _).mp hline)
      | _ => cases hkind

/-- Lines that are equal but for the time tell the same. -/
theorem Shows.alike {o o' : Option Entry} {line line' : String} (h : Shows o line)
    (h' : Shows o' line') (hline : maskLine line.toList = maskLine line'.toList) :
    Option.Rel Entry.Alike o o' := by
  have hkind : o.map Entry.kind = o'.map Entry.kind := by
    rw [← h.kind?_eq, ← h'.kind?_eq, ← kind?_maskLine, hline, kind?_maskLine]
  cases o with
  | none =>
      cases o' with
      | none => exact .none
      | some e' => cases hkind
  | some e =>
      cases o' with
      | none => cases hkind
      | some e' =>
          rw [maskLine_of_kind? h.kind?_eq, maskLine_of_kind? h'.kind?_eq,
            String.toList_inj] at hline
          exact .some (h.alike_of_kind_eq h' (Option.some_inj.mp hkind) hline)

/-! ### Cutting a report into its lines -/

theorem isPlain_counts (m : ScanMetrics) : IsPlain (counts false m) := by
  unfold counts
  simp only [paint_false, IsPlain.append_iff, isPlain_natRepr, ScanPath.isPlain_display]
  decide

/-- The name of a symbol, if the entry has one, has no line feed in it. -/
def Entry.IsOneLine : Entry → Prop
  | token t => t.NameAvoids '\n'
  | _ => True

theorem Shows.notMem {o : Option Entry} {line : String} (h : Shows o line)
    (hentry : ∀ e, o = some e → e.IsOneLine) : '\n' ∉ line.toList := by
  have hplain {text : String} (htext : IsPlain text) : '\n' ∉ text.toList :=
    htext.notMem (by decide)
  have htoken {start : String} {t : Token} (hstart : IsPlain start) (ht : t.NameAvoids '\n') :
      '\n' ∉ (start ++ token false t).toList := by
    rw [String.toList_append, List.mem_append, not_or]
    exact ⟨hplain hstart, notMem_token (by decide) ht⟩
  cases h with
  | blank | noTokens | noLines | emptyLine => exact hplain (by decide)
  | counts m => exact hplain (isPlain_counts m)
  | total n => exact hplain (IsPlain.append_iff.mpr ⟨by decide, isPlain_duration n⟩)
  | input text => exact hplain (IsPlain.append_iff.mpr ⟨by decide, isPlain_quoteString text⟩)
  | heading h =>
      simp only [titles, List.mem_cons, List.not_mem_nil, or_false] at h
      obtain rfl | rfl | rfl := h <;> exact hplain (by decide)
  | line n =>
      refine hplain ?_
      simp only [IsPlain.append_iff, isPlain_natRepr]
      decide
  | numbered i t =>
      refine htoken ?_ (hentry _ rfl)
      simp only [IsPlain.append_iff, isPlain_natRepr]
      decide
  | indented t => exact htoken (by decide) (hentry _ rfl)

theorem splitOn_unlines {lines : List String} (h : ∀ line ∈ lines, '\n' ∉ line.toList) :
    (unlines lines).toList.splitOn '\n' = lines.map String.toList ++ [[]] := by
  induction lines with
  | nil => rfl
  | cons line lines ih =>
      obtain ⟨hline, hlines⟩ := List.forall_mem_cons.mp h
      have hlist : (unlines (line :: lines)).toList =
          line.toList ++ '\n' :: (unlines lines).toList := by
        simp [String.toList_append]
      rw [hlist, List.splitOn_append_cons_self_of_not_mem hline, ih hlines]
      rfl

theorem notMem_maskLine {line : List Char} (h : '\n' ∉ line) : '\n' ∉ maskLine line := by
  unfold maskLine
  split
  · simp [totalMark]
  · exact h

theorem masked_unlines {lines : List String} (h : ∀ line ∈ lines, '\n' ∉ line.toList) :
    masked (unlines lines).toList =
      ['\n'].intercalate (lines.map (fun line => maskLine line.toList) ++ [[]]) := by
  rw [masked, splitOn_unlines h, List.map_append, List.map_map]
  rfl

theorem maskLine_total (text : String) :
    maskLine ("  Total: " ++ text).toList = totalMark ++ "<elapsed>".toList := by
  rw [String.toList_append]
  rfl

theorem splitOn_masked {lines : List String} (h : ∀ line ∈ lines, '\n' ∉ line.toList) :
    (masked (unlines lines).toList).splitOn '\n' =
      lines.map (fun line => maskLine line.toList) ++ [[]] := by
  rw [masked_unlines h]
  refine List.splitOn_intercalate '\n' ?_ (by simp)
  rw [List.forall_mem_append, List.forall_mem_map]
  exact ⟨fun line hline => notMem_maskLine (h line hline), by simp⟩

/-! ### Entries from lines -/

namespace SetsOut

variable {entries entries' : List Entry} {lines lines' : List String}

theorem notMem (h : SetsOut entries lines) (hentries : ∀ e ∈ entries, e.IsOneLine) :
    ∀ line ∈ lines, '\n' ∉ line.toList := by
  induction h with
  | nil => exact List.forall_mem_nil _
  | frame hline _ ih =>
      exact List.forall_mem_cons.mpr ⟨hline.notMem (by simp), ih hentries⟩
  | entry hline _ ih =>
      obtain ⟨he, hentries⟩ := List.forall_mem_cons.mp hentries
      exact List.forall_mem_cons.mpr ⟨hline.notMem (by simpa using he), ih hentries⟩

theorem alike (h : SetsOut entries lines) (h' : SetsOut entries' lines')
    (hlines : lines.map (fun line => maskLine line.toList) =
      lines'.map fun line => maskLine line.toList) :
    List.Forall₂ Entry.Alike entries entries' := by
  induction h generalizing entries' lines' with
  | nil =>
      cases h' with
      | nil => exact .nil
      | frame | entry => cases hlines
  | frame hline _ ih =>
      cases h' with
      | nil => cases hlines
      | frame hline' h' => exact ih h' (List.cons.inj hlines).2
      | entry hline' h' => cases hline.alike hline' (List.cons.inj hlines).1
  | entry hline _ ih =>
      cases h' with
      | nil => cases hlines
      | frame hline' h' => cases hline.alike hline' (List.cons.inj hlines).1
      | entry hline' h' =>
          obtain ⟨hfirst, hrest⟩ := List.cons.inj hlines
          cases hline.alike hline' hfirst with
          | some halike => exact .cons halike (ih h' hrest)

theorem append (h : SetsOut entries lines) (h' : SetsOut entries' lines') :
    SetsOut (entries ++ entries') (lines ++ lines') := by
  induction h with
  | nil => exact h'
  | frame hline _ ih => exact .frame hline ih
  | entry hline _ ih => exact .entry hline ih

theorem flatMap {α : Type} {xs : List α} {f : α → List Entry} {g : α → List String}
    (h : ∀ x ∈ xs, SetsOut (f x) (g x)) : SetsOut (xs.flatMap f) (xs.flatMap g) := by
  induction xs with
  | nil => exact .nil
  | cons x xs ih =>
      obtain ⟨hx, hxs⟩ := List.forall_mem_cons.mp h
      exact hx.append (ih hxs)

theorem map {α : Type} {xs : List α} {f : α → Entry} {g : α → String}
    (h : ∀ x ∈ xs, Shows (some (f x)) (g x)) : SetsOut (xs.map f) (xs.map g) := by
  rw [List.map_eq_flatMap, List.map_eq_flatMap]
  exact flatMap fun x hx => .entry (h x hx) .nil

theorem flatMap_zipIdx {α : Type} {f : α → List Entry} {g : α × Nat → List String}
    (h : ∀ p, SetsOut (f p.1) (g p)) (xs : List α) :
    SetsOut (xs.flatMap f) (xs.zipIdx.flatMap g) := by
  have hxs : xs.flatMap f = xs.zipIdx.flatMap fun p => f p.1 :=
    calc xs.flatMap f = (xs.zipIdx.map Prod.fst).flatMap f := by rw [List.zipIdx_map_fst]
      _ = xs.zipIdx.flatMap fun p => f p.1 := List.flatMap_map ..
  rw [hxs]
  exact flatMap fun p _ => h p

end SetsOut

/-- Tokens up to an entry of another kind. -/
theorem forall₂_tokens {tokens tokens' : List Token} {rest rest' : List Entry}
    (hrest : ∀ t, rest.head? ≠ some (.token t)) (hrest' : ∀ t, rest'.head? ≠ some (.token t))
    (h : List.Forall₂ Entry.Alike (tokens.map .token ++ rest) (tokens'.map .token ++ rest')) :
    List.Forall₂ Token.Alike tokens tokens' ∧ List.Forall₂ Entry.Alike rest rest' := by
  induction tokens generalizing tokens' with
  | nil =>
      cases tokens' with
      | nil => exact ⟨.nil, h⟩
      | cons u tokens' =>
          cases h with
          | @cons e _ _ _ halike _ =>
              cases e with
              | token t => exact absurd rfl (hrest t)
              | _ => cases halike
  | cons t tokens ih =>
      cases tokens' with
      | nil =>
          cases h with
          | @cons _ e _ _ halike _ =>
              cases e with
              | token u => exact absurd rfl (hrest' u)
              | _ => cases halike
      | cons u tokens' =>
          cases h with
          | cons halike h =>
              obtain ⟨htokens, hafter⟩ := ih h
              exact ⟨.cons halike htokens, hafter⟩

/-- The entries of a line of the input. -/
def lineEntries (tokens : List Token) : List Entry := .line :: tokens.map .token

theorem head?_lineEntries (ls : List (List Token)) (t : Token) :
    (ls.flatMap lineEntries).head? ≠ some (.token t) := by
  cases ls <;> simp [lineEntries]

theorem forall₂_lineEntries {ls ls' : List (List Token)}
    (h : List.Forall₂ Entry.Alike (ls.flatMap lineEntries) (ls'.flatMap lineEntries)) :
    List.Forall₂ (List.Forall₂ Token.Alike) ls ls' := by
  induction ls generalizing ls' with
  | nil =>
      cases ls' with
      | nil => exact .nil
      | cons tokens' ls' => cases h
  | cons tokens ls ih =>
      cases ls' with
      | nil => cases h
      | cons tokens' ls' =>
          cases h with
          | cons _ h =>
              obtain ⟨htokens, hrest⟩ :=
                forall₂_tokens (head?_lineEntries ls) (head?_lineEntries ls') h
              exact .cons htokens (ih hrest)

/-! ### Entries of reports -/

theorem setsOut_header (input : String) : SetsOut [.input input] (header false input) :=
  .frame .blank (.entry (.input input) .nil)

theorem setsOut_heading {title : String} (h : title ∈ titles) (style : Style) :
    SetsOut [.heading title] (heading false style title) :=
  .frame .blank (.entry (.heading h) .nil)

theorem setsOut_numberedTokens (tokens : List Token) :
    SetsOut (tokens.map .token) (numberedTokens false tokens) := by
  rw [numberedTokens, List.mapIdx_eq_zipIdx_map, List.map_eq_flatMap, List.map_eq_flatMap]
  exact .flatMap_zipIdx (fun (t, i) => .entry (.numbered i t) .nil) tokens

theorem setsOut_tokens (tokens : List Token) :
    SetsOut (tokens.map .token) (if tokens = [] then [paint false .dim "  No tokens produced"]
      else numberedTokens false tokens) := by
  split
  case isTrue h =>
    rw [h]
    exact .frame .noTokens .nil
  case isFalse => exact setsOut_numberedTokens tokens

/-- The entries of a report of a text scanned as a whole. -/
def runEntries (input : String) (r : ScanResult) : List Entry :=
  .input input :: .heading "━━━ Tokens ━━━" :: (r.tokens.map .token ++ [.heading "━━━ Scan ━━━"])

/-- The time is shown on the last line but one. -/
theorem exists_setsOut_run (input : String) (r : ScanResult) :
    ∃ front, ∀ nanoseconds,
      run false input (duration nanoseconds) r =
          unlines (front ++ ["  Total: " ++ duration nanoseconds, ""]) ∧
        SetsOut (runEntries input r) (front ++ ["  Total: " ++ duration nanoseconds, ""]) := by
  have hend (nanoseconds : Nat) :
      SetsOut [] [counts false r.metrics, "  Total: " ++ duration nanoseconds, ""] :=
    .frame (.counts r.metrics) (.frame (.total nanoseconds) (.frame .blank .nil))
  have hscan : SetsOut [.heading "━━━ Scan ━━━"] (heading false .gray "━━━ Scan ━━━") :=
    setsOut_heading (by simp [titles]) .gray
  have htitle : SetsOut [.heading "━━━ Tokens ━━━"] (heading false .gray "━━━ Tokens ━━━") :=
    setsOut_heading (by simp [titles]) .gray
  refine ⟨header false input ++ heading false .gray "━━━ Tokens ━━━"
    ++ (if r.tokens = [] then [paint false .dim "  No tokens produced"]
        else numberedTokens false r.tokens)
    ++ heading false .gray "━━━ Scan ━━━" ++ [counts false r.metrics], fun nanoseconds => ?_⟩
  simp only [run, List.append_assoc, List.singleton_append, paint_false, true_and]
  exact (setsOut_header input).append
    (htitle.append ((setsOut_tokens r.tokens).append (hscan.append (hend nanoseconds))))

/-- The entries of a report of a text scanned line by line. -/
def linesEntries (input : String) (ls : List (List Token)) : List Entry :=
  .input input :: .heading "━━━ Lines ━━━" :: ls.flatMap lineEntries

theorem setsOut_line (number : Nat) (tokens : List Token) :
    SetsOut (lineEntries tokens) (line false number tokens) := by
  refine .entry (.line number) ?_
  split
  case isTrue h =>
    rw [h]
    exact .frame .emptyLine .nil
  case isFalse => exact .map fun t _ => .indented t

theorem exists_setsOut_lines (input : String) (ls : List (List Token)) :
    ∃ lines, Report.lines false input ls = unlines lines ∧
      SetsOut (linesEntries input ls) lines := by
  have hempty : SetsOut [] (if ls = [] then [paint false .dim "  No lines"] else []) := by
    split
    · exact .frame .noLines .nil
    · exact .nil
  have hlines : SetsOut (ls.flatMap lineEntries)
      (ls.mapIdx fun i tokens => line false (i + 1) tokens).flatten := by
    rw [List.mapIdx_eq_zipIdx_map, ← List.flatMap_def]
    exact .flatMap_zipIdx (fun (tokens, i) => setsOut_line (i + 1) tokens) ls
  have htitle : SetsOut [.heading "━━━ Lines ━━━"] (heading false .gray "━━━ Lines ━━━") :=
    setsOut_heading (by simp [titles]) .gray
  have hall := ((setsOut_header input).append (htitle.append (hempty.append hlines))).append
    (.frame .blank .nil)
  refine ⟨_, rfl, ?_⟩
  simp only [List.append_assoc, List.append_nil] at hall ⊢
  exact hall

end Report

namespace CommandLine.ScanOutput

open Report (Entry SetsOut masked)

/-- A scan that came to its end, with symbols whose names have no line feed in them. -/
structure IsTold (output : ScanOutput) : Prop where
  names : output.NamesAvoid '\n'
  ends : ∀ e, output ≠ .error e

/-- The tokens are alike one by one, also line by line where the lines were scanned. -/
def Alike : ScanOutput → ScanOutput → Prop
  | run r, run r' => List.Forall₂ Token.Alike r.tokens r'.tokens
  | lines ls, lines ls' => List.Forall₂ (List.Forall₂ Token.Alike) ls ls'
  | _, _ => False

def entries (input : String) : ScanOutput → List Entry
  | run r => Report.runEntries input r
  | lines ls => Report.linesEntries input ls
  | error _ => []

variable {output output' : ScanOutput}

theorem IsTold.exists_setsOut (h : output.IsTold) (input : String) (nanoseconds : Nat) :
    ∃ lines, output.stdout false input nanoseconds = Report.unlines lines ∧
      SetsOut (output.entries input) lines := by
  cases output with
  | run r =>
      obtain ⟨front, hrun⟩ := Report.exists_setsOut_run input r
      simp only [stdout, response]
      exact ⟨_, hrun nanoseconds⟩
  | lines ls =>
      simp only [stdout, response]
      exact Report.exists_setsOut_lines input ls
  | error e => exact absurd rfl (h.ends e)

theorem IsTold.isOneLine (h : output.IsTold) (input : String) :
    ∀ e ∈ output.entries input, e.IsOneLine := by
  have htokens {tokens : List Token} (h : ∀ t ∈ tokens, t.NameAvoids '\n') :
      ∀ e ∈ tokens.map Entry.token, e.IsOneLine := List.forall_mem_map.mpr h
  cases output with
  | run r =>
      refine List.forall_mem_cons.mpr ⟨trivial, List.forall_mem_cons.mpr ⟨trivial, ?_⟩⟩
      exact List.forall_mem_append.mpr ⟨htokens h.names, List.forall_mem_singleton.mpr trivial⟩
  | lines ls =>
      refine List.forall_mem_cons.mpr ⟨trivial, List.forall_mem_cons.mpr ⟨trivial, fun e he => ?_⟩⟩
      obtain ⟨tokens, hmem, he⟩ := List.mem_flatMap.mp he
      exact List.forall_mem_cons.mpr ⟨trivial, htokens (h.names tokens hmem)⟩ e he
  | error e => exact absurd rfl (h.ends e)

theorem IsTold.alike (h : output.IsTold) (h' : output'.IsTold) {input input' : String}
    (hentries : List.Forall₂ Entry.Alike (output.entries input) (output'.entries input')) :
    input = input' ∧ output.Alike output' := by
  have hscan (t : Token) : [Entry.heading "━━━ Scan ━━━"].head? ≠ some (.token t) := by simp
  have htitles : "━━━ Tokens ━━━" ≠ "━━━ Lines ━━━" := by decide
  cases output with
  | run r =>
      cases output' with
      | run r' =>
          obtain ⟨hinput, hrest⟩ := List.forall₂_cons.mp hentries
          have hbody := (List.forall₂_cons.mp hrest).2
          exact ⟨hinput, (Report.forall₂_tokens hscan hscan hbody).1⟩
      | lines ls' =>
          obtain ⟨-, hrest⟩ := List.forall₂_cons.mp hentries
          exact absurd (List.forall₂_cons.mp hrest).1 htitles
      | error e => exact absurd rfl (h'.ends e)
  | lines ls =>
      cases output' with
      | run r' =>
          obtain ⟨-, hrest⟩ := List.forall₂_cons.mp hentries
          exact absurd (List.forall₂_cons.mp hrest).1 htitles.symm
      | lines ls' =>
          obtain ⟨hinput, hrest⟩ := List.forall₂_cons.mp hentries
          have hbody := (List.forall₂_cons.mp hrest).2
          exact ⟨hinput, Report.forall₂_lineEntries hbody⟩
      | error e => exact absurd rfl (h'.ends e)
  | error e => exact absurd rfl (h.ends e)

theorem IsTold.exists_lines (h : output.IsTold) (input : String) (nanoseconds : Nat) :
    ∃ lines, output.stdout false input nanoseconds = Report.unlines lines ∧
      (∀ line ∈ lines, '\n' ∉ line.toList) ∧ SetsOut (output.entries input) lines := by
  obtain ⟨lines, hlines, hsets⟩ := h.exists_setsOut input nanoseconds
  exact ⟨lines, hlines, hsets.notMem (h.isOneLine input), hsets⟩

/-- Reports that are equal but for the time are of one input and of tokens that are alike. -/
theorem IsTold.alike_of_masked_eq (h : output.IsTold) (h' : output'.IsTold) {input input' : String}
    {nanoseconds nanoseconds' : Nat}
    (hmasked : masked (output.stdout false input nanoseconds).toList =
      masked (output'.stdout false input' nanoseconds').toList) :
    input = input' ∧ output.Alike output' := by
  obtain ⟨lines, hlines, hnone, hsets⟩ := h.exists_lines input nanoseconds
  obtain ⟨lines', hlines', hnone', hsets'⟩ := h'.exists_lines input' nanoseconds'
  have hsplit := congrArg (List.splitOn '\n') hmasked
  rw [hlines, hlines', Report.splitOn_masked hnone, Report.splitOn_masked hnone',
    List.append_left_inj] at hsplit
  exact h.alike h' (hsets.alike hsets' hsplit)

/-- The time is all that a report says besides the input and the result of the scan. -/
theorem IsTold.masked_stdout (h : output.IsTold) (input : String) (nanoseconds nanoseconds' : Nat) :
    masked (output.stdout false input nanoseconds).toList =
      masked (output.stdout false input nanoseconds').toList := by
  have hentries := h.isOneLine input
  cases output with
  | run r =>
      obtain ⟨front, hrun⟩ := Report.exists_setsOut_run input r
      obtain ⟨hlines, hsets⟩ := hrun nanoseconds
      obtain ⟨hlines', hsets'⟩ := hrun nanoseconds'
      simp only [stdout, response]
      rw [hlines, hlines', Report.masked_unlines (hsets.notMem hentries),
        Report.masked_unlines (hsets'.notMem hentries)]
      simp only [List.map_append, List.map_cons, Report.maskLine_total]
  | lines ls => rfl
  | error e => exact absurd rfl (h.ends e)

end CommandLine.ScanOutput

end RuleLexer
