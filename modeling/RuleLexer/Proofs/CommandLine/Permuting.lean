import RuleLexer.Proofs.CommandLine.Spelling
import RuleLexer.Proofs.Scan.IgnoredSet

/-!
Options in another order. What a list of options asks for is told by which of
them are there, by the set of the characters to ignore, by the input and by the
rules in their order. So the response is the same for all orders of the options
in which the rules stay in the order that they have among themselves.
-/

namespace RuleLexer

namespace CommandLine

/-- The library rule or group of a name in any case. -/
def ruleNamed? (name : String) : Option RuleGroup :=
  Library.named? (String.ofList (name.toList.map Char.toLower))

/-- An option in one of its spellings. A value may stand in the same argument or in the next. -/
inductive OptionUnit
  | operators
  | lines
  | ignoreWhitespace (short : Bool)
  | suppressUnknown
  | keepCrlf
  | ignore (attached : Bool) (value : String)
  | rule (attached : Bool) (name : String)
  | input (short : Bool) (text : String)
  deriving DecidableEq, Repr

namespace OptionUnit

def arguments : OptionUnit → List String
  | operators => ["--operators"]
  | lines => ["--lines"]
  | ignoreWhitespace false => ["--ignore-whitespace"]
  | ignoreWhitespace true => ["-w"]
  | suppressUnknown => ["--suppress-unknown"]
  | keepCrlf => ["--keep-crlf"]
  | ignore false value => ["--ignore", value]
  | ignore true value => ["--ignore=" ++ value]
  | rule false name => ["--rule", name]
  | rule true name => ["--rule=" ++ name]
  | input false text => ["--input", text]
  | input true text => ["-i", text]

/-- A rule has a name that the library has. -/
def isKnown : OptionUnit → Bool
  | rule _ name => (ruleNamed? name).isSome
  | _ => true

def isRule : OptionUnit → Bool
  | rule .. => true
  | _ => false

def toggle? : OptionUnit → Option Toggle
  | operators => some .operators
  | lines => some .lines
  | ignoreWhitespace _ => some .ignoreWhitespace
  | suppressUnknown => some .suppressUnknown
  | keepCrlf => some .keepCrlf
  | _ => none

/-- The characters to ignore. -/
def ignored : OptionUnit → String
  | ignore false value => value
  | ignore true value => Valued.ignore.stripped value
  | _ => ""

def group? : OptionUnit → Option RuleGroup
  | rule _ name => ruleNamed? name
  | _ => none

def text? : OptionUnit → Option String
  | input _ text => some text
  | _ => none

/-- One of the options turns this on. -/
def isGiven (us : List OptionUnit) (t : Toggle) : Bool :=
  us.any fun u => decide (u.toggle? = some t)

end OptionUnit

namespace Settings

/-- What settings become with all these options. -/
def addAll (s : Settings) (us : List OptionUnit) : Settings :=
  { s with
    input := (s.input.toList ++ us.filterMap OptionUnit.text?).head?
    options :=
      { convertCrlf := s.options.convertCrlf && !OptionUnit.isGiven us .keepCrlf
        ignoreWhitespace := s.options.ignoreWhitespace || OptionUnit.isGiven us .ignoreWhitespace
        ignoredCharacters :=
          s.options.ignoredCharacters ++ String.join (us.map OptionUnit.ignored)
        suppressUnknown := s.options.suppressUnknown || OptionUnit.isGiven us .suppressUnknown
        rules := s.options.rules ++ us.filterMap OptionUnit.group? }
    operators := s.operators || OptionUnit.isGiven us .operators
    lines := s.lines || OptionUnit.isGiven us .lines }

theorem addAll_nil (s : Settings) : s.addAll [] = s := by
  simp [addAll, OptionUnit.isGiven]

theorem addAll_append (s : Settings) (us us' : List OptionUnit) :
    s.addAll (us ++ us') = (s.addAll us).addAll us' := by
  have hgiven (t : Toggle) : OptionUnit.isGiven (us ++ us') t =
      (OptionUnit.isGiven us t || OptionUnit.isGiven us' t) := List.any_append
  simp only [addAll, hgiven, List.filterMap_append, List.map_append, String.join_append,
    String.append_assoc, List.append_assoc, Bool.or_assoc, Bool.not_or, Bool.and_assoc]
  simp [Option.or_assoc]

theorem addAll_of_toggle? {u : OptionUnit} {t : Toggle} (h : u.toggle? = some t) (s : Settings) :
    s.addAll [u] = s.toggle t := by
  cases u <;> cases h <;>
    simp [addAll, OptionUnit.isGiven, List.filterMap_cons, OptionUnit.toggle?, OptionUnit.group?,
      OptionUnit.ignored, OptionUnit.text?, toggle, Options.ignoringWhitespace,
      Options.suppressingUnknown, Options.keepingCrlf]

theorem addAll_ignore (attached : Bool) (value : String) (s : Settings) :
    s.addAll [.ignore attached value] =
      { s with
        options := s.options.withIgnored (OptionUnit.ignored (.ignore attached value)) } := by
  simp [addAll, OptionUnit.isGiven, OptionUnit.toggle?, OptionUnit.group?, OptionUnit.text?,
    Options.withIgnored]

theorem addAll_rule {attached : Bool} {name : String} {g : RuleGroup} (h : ruleNamed? name = some g)
    (s : Settings) :
    s.addAll [.rule attached name] = { s with options := s.options.withRule g } := by
  simp [addAll, OptionUnit.isGiven, OptionUnit.toggle?, OptionUnit.group?, OptionUnit.ignored,
    OptionUnit.text?, Options.withRule, h]

theorem addAll_input {s : Settings} (hnone : s.input = none) (short : Bool) (text : String) :
    s.addAll [.input short text] = { s with input := some text } := by
  simp [addAll, OptionUnit.isGiven, List.filterMap_cons, OptionUnit.toggle?, OptionUnit.group?,
    OptionUnit.ignored, OptionUnit.text?, hnone]

end Settings

/-! ### How options are read -/

/-- The name of a rule does not begin as an option does. -/
theorem not_start_isPrefix_of_isSome {name : String} (h : (ruleNamed? name).isSome) :
    ¬ Valued.rule.start <+: name.toList := by
  have hnames : ∀ known ∈ Library.names, known.toList.head? ≠ some '-' := by decide +kernel
  rintro ⟨rest, hrest⟩
  rw [ruleNamed?, Library.named?, Option.isSome_map, List.find?_isSome] at h
  obtain ⟨entry, hentry, heq⟩ := h
  refine hnames entry.1 (List.mem_map.mpr ⟨entry, hentry, rfl⟩) ?_
  rw [eq_of_beq heq, ← hrest]
  simp [Valued.start, Valued.name]

theorem readArguments_toggle {argument : String} {t : Toggle}
    (h : Argument.ofString argument = .toggle t) (s : Settings) (rest : List String) :
    readArguments s (argument :: rest) = readArguments (s.toggle t) rest := by
  rw [readArguments, h]

theorem readArguments_valued {argument value : String} {v : Valued} {s s' : Settings}
    (h : Argument.ofString argument = .valued v) (hset : s.set v value = .ok s')
    (rest : List String) : readArguments s (argument :: value :: rest) = readArguments s' rest := by
  simp only [readArguments, h, hset]

theorem set_rule {name : String} {g : RuleGroup} (h : ruleNamed? name = some g) (s : Settings) :
    s.set .rule name = .ok { s with options := s.options.withRule g } := by
  rw [ruleNamed?] at h
  rw [Settings.set, h]

/-- An option is read as what it adds to the settings, if a rule is known and no input is there
before another one. -/
theorem readArguments_unit {u : OptionUnit} (hknown : u.isKnown) {s : Settings}
    (hinput : u.text?.isSome → s.input = none) (rest : List String) :
    readArguments s (u.arguments ++ rest) = readArguments (s.addAll [u]) rest := by
  cases u with
  | operators | lines | suppressUnknown | keepCrlf =>
      rw [Settings.addAll_of_toggle? rfl]
      exact readArguments_toggle rfl s rest
  | ignoreWhitespace short =>
      rw [Settings.addAll_of_toggle? rfl]
      cases short <;> exact readArguments_toggle rfl s rest
  | ignore attached value =>
      rw [Settings.addAll_ignore]
      cases attached with
      | false => exact readArguments_valued (ofString_name .ignore) rfl rest
      | true =>
          rw [OptionUnit.arguments, List.singleton_append]
          exact (readArguments_attached s .ignore value rest).trans
            (readArguments_valued (ofString_name .ignore) rfl rest)
  | rule attached name =>
      obtain ⟨g, hg⟩ := Option.isSome_iff_exists.mp hknown
      rw [Settings.addAll_rule hg]
      have hread := readArguments_valued (ofString_name .rule) (set_rule hg s) rest
      cases attached with
      | false => exact hread
      | true =>
          have hattached := readArguments_attached s .rule name rest
          rw [Valued.stripped_of_not_start (not_start_isPrefix_of_isSome hknown), hread]
            at hattached
          exact hattached
  | input short text =>
      have hnone := hinput rfl
      have hset : s.set .input text = .ok { s with input := some text } := by
        rw [Settings.set, Settings.setInput, hnone]
      rw [Settings.addAll_input hnone]
      cases short with
      | false => exact readArguments_valued (ofString_name .input) hset rest
      | true => exact readArguments_valued rfl hset rest

/-- Options are read to the end, if all rules are known and there is one input at most. -/
theorem readArguments_units {us : List OptionUnit} (hknown : ∀ u ∈ us, u.isKnown) {s : Settings}
    (hinput : (s.input.toList ++ us.filterMap OptionUnit.text?).length ≤ 1) :
    readArguments s (us.flatMap OptionUnit.arguments) = .ok (.scan (s.addAll us)) := by
  induction us generalizing s with
  | nil => rw [Settings.addAll_nil]; rfl
  | cons u us ih =>
      obtain ⟨hu, hus⟩ := List.forall_mem_cons.mp hknown
      rw [← List.singleton_append, List.filterMap_append, List.length_append,
        List.length_append] at hinput
      have hnone : u.text?.isSome → s.input = none := by
        intro hsome
        obtain ⟨text, htext⟩ := Option.isSome_iff_exists.mp hsome
        rw [List.filterMap_cons_some htext] at hinput
        cases hs : s.input with
        | none => rfl
        | some input =>
            simp only [hs, Option.toList_some, List.length_cons] at hinput
            omega
      have hrest : ((s.addAll [u]).input.toList ++ us.filterMap OptionUnit.text?).length ≤ 1 := by
        have hhead : (s.addAll [u]).input.toList.length ≤
            s.input.toList.length + ([u].filterMap OptionUnit.text?).length := by
          rw [Settings.addAll, ← List.length_append]
          cases s.input.toList ++ [u].filterMap OptionUnit.text? <;> simp
        rw [List.length_append]
        omega
      rw [List.flatMap_cons, readArguments_unit hu hnone, ih hus hrest, ← Settings.addAll_append,
        List.singleton_append]

/-! ### Another order -/

/-- The settings with other characters to ignore. -/
def Settings.setIgnored (s : Settings) (chars : String) : Settings :=
  { s with options := { s.options with ignoredCharacters := chars } }

theorem filterMap_group?_filter (us : List OptionUnit) :
    (us.filter OptionUnit.isRule).filterMap OptionUnit.group? = us.filterMap OptionUnit.group? := by
  rw [List.filterMap_filter]
  refine List.filterMap_congr fun u _ => ?_
  cases u <;> rfl

section

variable {us us' : List OptionUnit} (hperm : us.Perm us')

include hperm

theorem isGiven_of_perm (t : Toggle) : OptionUnit.isGiven us t = OptionUnit.isGiven us' t := by
  rw [OptionUnit.isGiven, OptionUnit.isGiven, hperm.any_eq]

theorem mem_ignored_addAll_of_perm (s : Settings) (c : Char) :
    c ∈ (s.addAll us).options.ignoredCharacters.toList ↔
      c ∈ (s.addAll us').options.ignoredCharacters.toList := by
  simp [Settings.addAll, hperm.mem_iff]

/-- In another order options ask for the same, with the characters to ignore in another order. -/
theorem addAll_of_perm (hrules : us.filter OptionUnit.isRule = us'.filter OptionUnit.isRule)
    (hinput : (us.filterMap OptionUnit.text?).length = 1) (s : Settings) :
    s.addAll us' = (s.addAll us).setIgnored (s.addAll us').options.ignoredCharacters := by
  obtain ⟨text, htext⟩ := List.length_eq_one_iff.mp hinput
  have htext' : us'.filterMap OptionUnit.text? = [text] := by
    have htexts := hperm.symm.filterMap OptionUnit.text?
    rw [htext] at htexts
    exact List.perm_singleton.mp htexts
  have hgroups : us'.filterMap OptionUnit.group? = us.filterMap OptionUnit.group? := by
    rw [← filterMap_group?_filter us', ← hrules, filterMap_group?_filter]
  simp only [Settings.addAll, Settings.setIgnored, isGiven_of_perm hperm, htext, htext', hgroups]

end

/-! ### The same response -/

theorem mem_ignored {o : Options} {c : Char} :
    c ∈ o.ignored ↔
      c ∈ (if o.ignoreWhitespace then Options.whitespace else []) ∨
        c ∈ o.ignoredCharacters.toList := by
  rw [Options.ignored, List.mem_eraseDups, List.mem_append]

namespace Settings

theorem prepare_setIgnored (s : Settings) (chars : String) (stdin : ByteArray) :
    (s.setIgnored chars).prepare stdin =
      (s.prepare stdin).map fun (input, t) =>
        (input, t.withIgnored (s.setIgnored chars).options.ignored) := by
  have hbuild : Tokenizer.build s.enumeration (s.setIgnored chars).options =
      (Tokenizer.build s.enumeration s.options).map fun t =>
        t.withIgnored (s.setIgnored chars).options.ignored := by
    rw [Tokenizer.build, Tokenizer.build]
    cases SymbolTable.ofEnumeration s.enumeration <;> rfl
  have htext : (s.setIgnored chars).inputText stdin = s.inputText stdin := rfl
  have henumeration : (s.setIgnored chars).enumeration = s.enumeration := rfl
  rw [prepare, prepare, htext, henumeration, hbuild]
  cases s.inputText stdin with
  | error e => rfl
  | ok input => cases Tokenizer.build s.enumeration s.options <;> rfl

theorem scan_withIgnored {ignored ignored' : List Char} (h : ∀ c, c ∈ ignored ↔ c ∈ ignored')
    (s : Settings) (t : Tokenizer) (input : String) :
    s.scan (t.withIgnored ignored) input = s.scan (t.withIgnored ignored') input := by
  rw [scan, scan, Tokenizer.tokenizeLines_withIgnored h,
    Tokenizer.tokenizeWithMetrics_withIgnored h]

end Settings

/-- Arguments that ask for the same, but for the order of the characters to ignore, have the same
response. -/
theorem respond_of_setIgnored {color : Bool} {xs ys : List String} {s : Settings}
    {chars chars' : String} (hxs : readArguments { color } xs = .ok (.scan (s.setIgnored chars)))
    (hys : readArguments { color } ys = .ok (.scan (s.setIgnored chars')))
    (hchars : ∀ c, c ∈ chars.toList ↔ c ∈ chars'.toList) (stdin : ByteArray) (elapsed : String) :
    respond color xs stdin elapsed = respond color ys stdin elapsed := by
  have hignored (c : Char) : c ∈ (s.setIgnored chars).options.ignored ↔
      c ∈ (s.setIgnored chars').options.ignored := by
    rw [mem_ignored, mem_ignored]
    exact or_congr_right (hchars c)
  rw [respond, respond, start, start, hxs, hys]
  simp only [Settings.prepare_setIgnored]
  cases s.prepare stdin with
  | error r => rfl
  | ok prepared =>
      obtain ⟨input, t⟩ := prepared
      exact congrArg (ScanOutput.response s.color input elapsed)
        (s.scan_withIgnored hignored t input)

/-- Options with known rules and with one input have the same response in every order that leaves
the rules in theirs. -/
theorem respond_of_perm {us us' : List OptionUnit} (hperm : us.Perm us')
    (hrules : us.filter OptionUnit.isRule = us'.filter OptionUnit.isRule)
    (hknown : ∀ u ∈ us, u.isKnown) (hinput : (us.filterMap OptionUnit.text?).length = 1)
    (color : Bool) (stdin : ByteArray) (elapsed : String) :
    respond color (us.flatMap OptionUnit.arguments) stdin elapsed =
      respond color (us'.flatMap OptionUnit.arguments) stdin elapsed := by
  have hknown' : ∀ u ∈ us', u.isKnown := fun u hu => hknown u (hperm.mem_iff.mpr hu)
  have hinput' : (us'.filterMap OptionUnit.text?).length = 1 := by
    rw [← (hperm.filterMap OptionUnit.text?).length_eq, hinput]
  have hread := readArguments_units hknown (s := { color }) hinput.le
  have hread' := readArguments_units hknown' (s := { color }) hinput'.le
  rw [addAll_of_perm hperm hrules hinput] at hread'
  exact respond_of_setIgnored hread hread' (mem_ignored_addAll_of_perm hperm _) stdin elapsed

/-- The rules in the one order and in the other are tried in the same order. -/
theorem respond_of_perm_numbers :
    let us : List OptionUnit := [.ignore true "b", .rule false "FLOAT", .input true "1.5ab2",
      .keepCrlf, .ignore false "a", .rule true "int"]
    let us' : List OptionUnit := [.rule false "FLOAT", .ignore false "a", .rule true "int",
      .keepCrlf, .ignore true "b", .input true "1.5ab2"]
    us.Perm us' ∧ us.filter OptionUnit.isRule = us'.filter OptionUnit.isRule ∧
      (∀ u ∈ us, u.isKnown) ∧ (us.filterMap OptionUnit.text?).length = 1 ∧
      us.flatMap OptionUnit.arguments = ["--ignore=b", "--rule", "FLOAT", "-i", "1.5ab2",
        "--keep-crlf", "--ignore", "a", "--rule=int"] ∧
      (respond false (us.flatMap OptionUnit.arguments) .empty "").exit = 0 ∧
      respond false (us.flatMap OptionUnit.arguments) .empty "" =
        respond false (us'.flatMap OptionUnit.arguments) .empty "" := by
  intro us us'
  have hperm : us.Perm us' := by decide
  have hrules : us.filter OptionUnit.isRule = us'.filter OptionUnit.isRule := by decide
  have hknown : ∀ u ∈ us, u.isKnown := by decide +kernel
  exact ⟨hperm, hrules, hknown, rfl, by decide +kernel, by decide +kernel,
    respond_of_perm hperm hrules hknown rfl false .empty ""⟩

end CommandLine

end RuleLexer
