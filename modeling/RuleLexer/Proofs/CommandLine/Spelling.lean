import RuleLexer.CommandLine

/-!
Options with a value, as one argument or as two. Both are read in the same way,
unless the value begins with the option and an equals sign once more. As one
argument this is taken off however often it stands there, and as two arguments
it is part of the value.
-/

namespace RuleLexer

namespace CommandLine

/-! ### What is taken off a text -/

theorem stripAll_of_not_start {start text : List Char} (h : ¬ start <+: text) (fuel : Nat) :
    stripAll start fuel text = text := by
  cases fuel with
  | zero => rfl
  | succ fuel => rw [stripAll, if_neg (by rwa [List.isPrefixOf_iff_prefix])]

theorem stripAll_append (start text : List Char) (fuel : Nat) :
    stripAll start (fuel + 1) (start ++ text) = stripAll start fuel text := by
  rw [stripAll, if_pos (List.isPrefixOf_iff_prefix.mpr (List.prefix_append start text)),
    List.drop_left]

/-- The length of a text is enough fuel. -/
theorem stripAll_of_length_le {start text : List Char} {fuel fuel' : Nat} (hne : start ≠ [])
    (h : text.length ≤ fuel) (h' : text.length ≤ fuel') :
    stripAll start fuel text = stripAll start fuel' text := by
  induction fuel generalizing text fuel' with
  | zero =>
      obtain rfl := List.eq_nil_of_length_eq_zero (Nat.le_zero.mp h)
      exact (stripAll_of_not_start (mt List.prefix_nil.mp hne) fuel').symm
  | succ fuel ih =>
      by_cases hstart : start <+: text
      · -- what is taken off is not empty, so the fuel goes down no faster than the text
        obtain ⟨rest, rfl⟩ := hstart
        have hpos := List.length_pos_iff.mpr hne
        rw [List.length_append] at h h'
        cases fuel' with
        | zero => omega
        | succ fuel' =>
            rw [stripAll_append, stripAll_append]
            exact ih (by omega) (by omega)
      · rw [stripAll_of_not_start hstart, stripAll_of_not_start hstart]

/-! ### One argument -/

/-- How an argument begins that has the value of the option in it. -/
def Valued.start (v : Valued) : List Char := v.name.toList ++ ['=']

/-- What is left of a value in the same argument as its option. -/
def Valued.stripped (v : Valued) (value : String) : String :=
  String.ofList (stripAll v.start value.length value.toList)

theorem Valued.stripped_of_not_start {v : Valued} {value : String}
    (h : ¬ v.start <+: value.toList) : v.stripped value = value := by
  rw [stripped, stripAll_of_not_start h, String.ofList_toList]

theorem toList_attached (v : Valued) (value : String) :
    (v.name ++ "=" ++ value).toList = v.start ++ value.toList := by
  simp [Valued.start]

theorem Valued.stripped_attached (v : Valued) (value : String) :
    v.stripped (v.name ++ "=" ++ value) = v.stripped value := by
  have hlength : (v.name ++ "=" ++ value).length = v.name.length + value.length + 1 := by
    simp only [String.length_append]
    exact Nat.add_right_comm ..
  rw [stripped, stripped, toList_attached, hlength, stripAll_append]
  refine congrArg _ (stripAll_of_length_le (by simp [Valued.start]) ?_ ?_)
  · rw [String.length_toList]
    exact Nat.le_add_left _ _
  · exact Nat.le_of_eq String.length_toList

/-- No option as a whole has an equals sign in it. -/
theorem find?_spellings_of_mem {argument : String} (h : '=' ∈ argument.toList) :
    (spellings.find? fun entry => entry.1 == argument) = none := by
  have hspellings : ∀ entry ∈ spellings, '=' ∉ entry.1.toList := by decide +kernel
  rw [List.find?_eq_none]
  intro entry hentry heq
  rw [← eq_of_beq heq] at h
  exact hspellings entry hentry h

theorem attached?_attached (v : Valued) (value : String) :
    attached? v (v.name ++ "=" ++ value) = some (.attached v (v.stripped value)) := by
  have hstart : v.start.isPrefixOf (v.name ++ "=" ++ value).toList := by
    rw [toList_attached, List.isPrefixOf_iff_prefix]
    exact List.prefix_append _ _
  rw [← v.stripped_attached value]
  exact if_pos hstart

theorem Valued.not_start_isPrefix {v w : Valued} (h : w ≠ v) : ¬ w.start <+: v.start := by
  revert h
  cases v <;> cases w <;> decide +kernel

theorem attached?_of_ne {v w : Valued} (h : w ≠ v) (value : String) :
    attached? w (v.name ++ "=" ++ value) = none := by
  refine if_neg fun hstart => ?_
  rw [toList_attached, List.isPrefixOf_iff_prefix] at hstart
  obtain hbegins | hbegins :=
    List.prefix_or_prefix_of_prefix hstart (List.prefix_append v.start value.toList)
  · exact Valued.not_start_isPrefix h hbegins
  · exact Valued.not_start_isPrefix h.symm hbegins

theorem ofString_attached (v : Valued) (value : String) :
    Argument.ofString (v.name ++ "=" ++ value) = .attached v (v.stripped value) := by
  have hmem : '=' ∈ (v.name ++ "=" ++ value).toList := by simp
  rw [Argument.ofString, find?_spellings_of_mem hmem]
  cases v with
  | rule => rw [attached?_attached]; rfl
  | ignore => rw [attached?_of_ne (by decide), attached?_attached]; rfl
  | input => rw [attached?_of_ne (by decide), attached?_of_ne (by decide), attached?_attached]; rfl

theorem ofString_name (v : Valued) : Argument.ofString v.name = .valued v := by
  cases v <;> rfl

/-- A value in the same argument is read as if what is left of it were the next one. -/
theorem readArguments_attached (s : Settings) (v : Valued) (value : String) (rest : List String) :
    readArguments s ((v.name ++ "=" ++ value) :: rest) =
      readArguments s (v.name :: v.stripped value :: rest) := by
  simp only [readArguments, ofString_attached, ofString_name]

/-! ### The arguments around it -/

/-- The argument neither takes the next one for its value nor begins the input. -/
def Argument.isAlone : Argument → Bool
  | .valued _ | .separator | .text => false
  | _ => true

/-- Options with their values. What follows them is read as an option if it is one. -/
inductive OptionsOnly : List String → Prop
  | nil : OptionsOnly []
  | alone {argument : String} {rest : List String} (h : (Argument.ofString argument).isAlone)
      (hrest : OptionsOnly rest) : OptionsOnly (argument :: rest)
  | valued {argument value : String} {rest : List String} {v : Valued}
      (h : Argument.ofString argument = .valued v) (hrest : OptionsOnly rest) :
      OptionsOnly (argument :: value :: rest)

/-- Arguments that are read alike after any settings are so behind other options. -/
theorem OptionsOnly.readArguments_congr {before xs ys : List String} (h : OptionsOnly before)
    (hsame : ∀ s, readArguments s xs = readArguments s ys) (s : Settings) :
    readArguments s (before ++ xs) = readArguments s (before ++ ys) := by
  induction h generalizing s with
  | nil => exact hsame s
  | @alone argument rest halone _ ih =>
      rw [List.cons_append, List.cons_append, readArguments, readArguments]
      cases hargument : Argument.ofString argument with
      | toggle t => exact ih _
      | attached v value => simp only [ih]
      -- here the reading ends before it comes to what follows
      | help => rfl
      | version => rfl
      | unknown => rfl
      | valued v => simp [hargument, Argument.isAlone] at halone
      | separator => simp [hargument, Argument.isAlone] at halone
      | text => simp [hargument, Argument.isAlone] at halone
  | @valued argument value rest v hargument _ ih =>
      simp only [List.cons_append, readArguments, hargument, ih]

theorem OptionsOnly.respond_congr {before xs ys : List String} (h : OptionsOnly before)
    (hsame : ∀ s, readArguments s xs = readArguments s ys) (color : Bool) (stdin : ByteArray)
    (elapsed : String) :
    respond color (before ++ xs) stdin elapsed = respond color (before ++ ys) stdin elapsed := by
  rw [respond, respond, start, start, h.readArguments_congr hsame]

/-- Where an option with a value is read, the response is the same for both spellings, unless the
value begins with the option and an equals sign. To begin so once more makes no difference to the
spelling as one argument. -/
theorem respond_attached {before : List String} (h : OptionsOnly before) (v : Valued) (color : Bool)
    (after : List String) (stdin : ByteArray) (elapsed : String) :
    (∀ value : String, ¬ (v.name ++ "=").toList <+: value.toList →
      respond color (before ++ (v.name ++ "=" ++ value) :: after) stdin elapsed =
        respond color (before ++ v.name :: value :: after) stdin elapsed) ∧
    ∀ value : String,
      respond color (before ++ (v.name ++ "=" ++ (v.name ++ "=" ++ value)) :: after) stdin elapsed =
        respond color (before ++ (v.name ++ "=" ++ value) :: after) stdin elapsed := by
  constructor
  · intro value hvalue
    rw [String.toList_append] at hvalue
    refine h.respond_congr (fun s => ?_) color stdin elapsed
    rw [readArguments_attached, Valued.stripped_of_not_start hvalue]
  · intro value
    refine h.respond_congr (fun s => ?_) color stdin elapsed
    rw [readArguments_attached, readArguments_attached, Valued.stripped_attached]

/-- The value of the option before looks like an option itself. -/
theorem respond_attached_ignored :
    OptionsOnly ["--lines", "--ignore", "--rule="] ∧
    ¬ (Valued.rule.name ++ "=").toList <+: "INT".toList ∧
    (respond false ["--lines", "--ignore", "--rule=", "--rule=INT", "4=2"] .empty "").exit = 0 ∧
    respond false ["--lines", "--ignore", "--rule=", "--rule=INT", "4=2"] .empty "" =
      respond false ["--lines", "--ignore", "--rule=", "--rule", "INT", "4=2"] .empty "" ∧
    respond false ["--lines", "--ignore", "--rule=", "--rule=--rule=INT", "4=2"] .empty "" =
      respond false ["--lines", "--ignore", "--rule=", "--rule=INT", "4=2"] .empty "" := by
  have hoptions : OptionsOnly ["--lines", "--ignore", "--rule="] :=
    .alone rfl (.valued rfl .nil)
  have hvalue : ¬ (Valued.rule.name ++ "=").toList <+: "INT".toList := by decide +kernel
  have hsame := respond_attached hoptions .rule false ["4=2"] .empty ""
  exact ⟨hoptions, hvalue, by decide +kernel, hsame.1 "INT" hvalue, hsame.2 "INT"⟩

/-- As two arguments the value is no name of a rule. -/
theorem respond_attached_ne :
    respond false ["--rule=--rule=int", "7"] .empty "" ≠
      respond false ["--rule", "--rule=int", "7"] .empty "" := by
  have hone : (respond false ["--rule=--rule=int", "7"] .empty "").exit = 0 := by decide +kernel
  have htwo : (respond false ["--rule", "--rule=int", "7"] .empty "").exit = 2 := by
    decide +kernel
  intro hsame
  rw [hsame, htwo] at hone
  cases hone

end CommandLine

end RuleLexer
