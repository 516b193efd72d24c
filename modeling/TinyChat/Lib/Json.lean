import TinyChat.Lib.JsonText

/-!
# JSON documents

A document is written without spaces and read by an automaton with a stack,
one character after another.  No document has numbers with a fraction, so the
automaton has none either.  As it is deterministic, a text that is complete can
only be followed by white space.
-/

inductive Json where
  | null
  | bool (value : Bool)
  | int (value : Int)
  | str (text : List Char)
  | arr (items : List Json)
  | obj (members : List (List Char × Json))

namespace Json

def comma : Char := Char.ofNat 44

def openBracket : Char := Char.ofNat 91

def closeBracket : Char := Char.ofNat 93

def openBrace : Char := Char.ofNat 123

def closeBrace : Char := Char.ofNat 125

/-! ## Writing -/

def numeral : Int → List Char
  | .ofNat value => Nat.toDigits 10 value
  | .negSucc value => '-' :: Nat.toDigits 10 (value + 1)

def nullToken : List Char := ['n', 'u', 'l', 'l']

def boolToken : Bool → List Char
  | true => ['t', 'r', 'u', 'e']
  | false => ['f', 'a', 'l', 's', 'e']

def quoted (text : List Char) : List Char :=
  quote :: (escape text ++ [quote])

mutual

def dumps : Json → List Char
  | .null => nullToken
  | .bool value => boolToken value
  | .int value => numeral value
  | .str text => quoted text
  | .arr items => openBracket :: (dumpsItems items ++ [closeBracket])
  | .obj members => openBrace :: (dumpsMembers members ++ [closeBrace])

def dumpsItems : List Json → List Char
  | [] => []
  | [item] => dumps item
  | item :: next :: rest =>
      dumps item ++ comma :: dumpsItems (next :: rest)

def dumpsMembers : List (List Char × Json) → List Char
  | [] => []
  | [(key, value)] => quoted key ++ ':' :: dumps value
  | (key, value) :: next :: rest =>
      quoted key ++ ':' :: (dumps value ++ comma :: dumpsMembers (next :: rest))

end

/-! ## Reading -/

def isSpace (char : Char) : Bool :=
  char = ' ' || char = '\t' || char = '\n' || char = '\r'

/-- The characters of numbers and of the three names. -/
def isBare (char : Char) : Bool := char.isAlphanum || char = '-'

/-- The numerals without a superfluous zero. -/
def natural (digits : List Char) : Option Nat :=
  if digits.all Char.isDigit ∧
      Nat.toDigits 10 (Nat.ofDigitChars 10 digits 0) = digits then
    some (Nat.ofDigitChars 10 digits 0)
  else none

def number : List Char → Option Int
  | [] => none
  | char :: rest =>
      if char = '-' then (natural rest).map fun value => -(value : Int)
      else (natural (char :: rest)).map fun value => (value : Int)

def bareValue (token : List Char) : Option Json :=
  if token = nullToken then some .null
  else if token = boolToken true then some (.bool true)
  else if token = boolToken false then some (.bool false)
  else (number token).map .int

/-- A list or an object that is not complete yet, with what has been read of
it in reverse. -/
inductive Frame where
  | items (read : List Json)
  | members (read : List (List Char × Json)) (key : List Char)

/-- A string is a value, or the key of an object with these members. -/
inductive TextRole where
  | value
  | key (read : List (List Char × Json))

inductive State where
  | value (stack : List Frame)
  | key (read : List (List Char × Json)) (stack : List Frame)
  | colon (read : List (List Char × Json)) (key : List Char)
      (stack : List Frame)
  | text (role : TextRole) (read : List Char) (state : TextState)
      (stack : List Frame)
  | bare (token : List Char) (stack : List Frame)
  | after (value : Json) (stack : List Frame)

/-- Close an empty list; a bracket after a comma is refused. -/
def closeEmpty : List Frame → Option State
  | .items [] :: stack => some (.after (.arr []) stack)
  | _ => none

def beginValue (stack : List Frame) (char : Char) : Option State :=
  if isBare char then some (.bare [char] stack)
  else if char = quote then some (.text .value [] .plain stack)
  else if char = openBracket then some (.value (.items [] :: stack))
  else if char = openBrace then some (.key [] stack)
  else if char = closeBracket then closeEmpty stack
  else none

def beginKey (read : List (List Char × Json)) (stack : List Frame)
    (char : Char) : Option State :=
  if char = quote then some (.text (.key read) [] .plain stack)
  else if char = closeBrace ∧ read.isEmpty then
    some (.after (.obj []) stack)
  else none

def afterValue (value : Json) (stack : List Frame) (char : Char) :
    Option State :=
  match stack with
  | [] => none
  | .items read :: stack =>
      if char = comma then some (.value (.items (value :: read) :: stack))
      else if char = closeBracket then
        some (.after (.arr (value :: read).reverse) stack)
      else none
  | .members read key :: stack =>
      if char = comma then some (.key ((key, value) :: read) stack)
      else if char = closeBrace then
        some (.after (.obj ((key, value) :: read).reverse) stack)
      else none

def closeText (role : TextRole) (read : List Char) (stack : List Frame) :
    State :=
  match role with
  | .value => .after (.str read.reverse) stack
  | .key members => .colon members read.reverse stack

def step (state : State) (char : Char) : Option State :=
  match state with
  | .value stack =>
      if isSpace char then some state else beginValue stack char
  | .key read stack =>
      if isSpace char then some state else beginKey read stack char
  | .colon read key stack =>
      if isSpace char then some state
      else if char = ':' then some (.value (.members read key :: stack))
      else none
  | .text role read inner stack =>
      if inner = .plain ∧ char = quote then some (closeText role read stack)
      else
        (readChar read inner char).map fun next =>
          .text role next.1 next.2 stack
  | .bare token stack =>
      if isBare char then some (.bare (char :: token) stack)
      else
        match bareValue token.reverse with
        | none => none
        | some value =>
            if isSpace char then some (.after value stack)
            else afterValue value stack char
  | .after value stack =>
      if isSpace char then some state else afterValue value stack char

def run (state : State) : List Char → Option State
  | [] => some state
  | char :: rest => (step state char).bind fun next => run next rest

def finish : State → Option Json
  | .after value [] => some value
  | .bare token [] => bareValue token.reverse
  | _ => none

/-- Read a whole text. -/
def loads (text : List Char) : Option Json :=
  (run (.value []) text).bind finish

theorem run_append (state : State) (first second : List Char) :
    run state (first ++ second) =
      (run state first).bind fun next => run next second := by
  induction first generalizing state with
  | nil => rfl
  | cons char first induction =>
      rw [List.cons_append, run, run]
      cases step state char with
      | none => rfl
      | some next => exact induction next

theorem run_of_step {state next : State} {char : Char} (rest : List Char)
    (stepped : step state char = some next) :
    run state (char :: rest) = run next rest := by
  rw [run, stepped]
  rfl

theorem run_of_run {state next : State} {first : List Char}
    (second : List Char) (reached : run state first = some next) :
    run state (first ++ second) = run next second := by
  rw [run_append, reached]
  rfl

/-! ## Reading what was written -/

variable {value : Json} {stack : List Frame} {state : State} {char : Char}

theorem notSpace_of_isBare (bare : isBare char = true) :
    isSpace char = false := by
  have other : ∀ space, isBare space = false → char ≠ space := by
    rintro _ refused rfl
    rw [refused] at bare
    cases bare
  simp [isSpace, other ' ' (by decide), other '\t' (by decide),
    other '\n' (by decide), other '\r' (by decide)]

theorem run_token (token read : List Char)
    (bare : ∀ char ∈ token, isBare char = true) :
    run (.bare read stack) token =
      some (.bare (token.reverse ++ read) stack) := by
  induction token generalizing read with
  | nil => rfl
  | cons char token induction =>
      have stepped : step (.bare read stack) char =
          some (.bare (char :: read) stack) :=
        if_pos (bare char List.mem_cons_self)
      rw [run_of_step token stepped,
        induction _ fun other member =>
          bare other (List.mem_cons_of_mem char member),
        List.reverse_cons, List.append_assoc]
      rfl

theorem run_bareToken {token : List Char} (nonempty : token ≠ [])
    (bare : ∀ char ∈ token, isBare char = true) :
    run (.value stack) token = some (.bare token.reverse stack) := by
  cases token with
  | nil => exact absurd rfl nonempty
  | cons char token =>
      have first := bare char List.mem_cons_self
      have stepped : step (.value stack) char =
          some (.bare [char] stack) := by
        simp only [step, notSpace_of_isBare first, beginValue, first,
          if_true, Bool.false_eq_true, if_false]
      rw [run_of_step token stepped, run_token token [char] fun other member =>
          bare other (List.mem_cons_of_mem char member),
        List.reverse_cons]

/-! ### Numbers -/

theorem natural_toDigits (value : Nat) :
    natural (Nat.toDigits 10 value) = some value := by
  have digits : (Nat.toDigits 10 value).all Char.isDigit = true := by
    rw [List.all_eq_true]
    intro char member
    exact Nat.isDigit_of_mem_toDigits (by decide) (by decide) member
  rw [natural, Nat.ofDigitChars_ten_toDigits, if_pos ⟨digits, rfl⟩]

theorem isDigit_of_cons_toDigits {value : Nat} {rest : List Char}
    (written : Nat.toDigits 10 value = char :: rest) :
    char.isDigit = true := by
  apply Nat.isDigit_of_mem_toDigits (n := value) (b := 10) (by decide)
    (by decide)
  rw [written]
  exact List.mem_cons_self

theorem ne_of_isDigit {other : Char} (digit : char.isDigit = true)
    (letter : other.isDigit = false) : char ≠ other := by
  rintro rfl
  rw [letter] at digit
  cases digit

theorem number_toDigits (value : Nat) :
    number (Nat.toDigits 10 value) = some (value : Int) := by
  have read := natural_toDigits value
  cases written : Nat.toDigits 10 value with
  | nil => exact absurd written Nat.toDigits_ne_nil
  | cons char rest =>
      have digit := isDigit_of_cons_toDigits written
      rw [written] at read
      rw [number, if_neg (ne_of_isDigit digit (by decide)), read]
      rfl

theorem number_numeral (value : Int) :
    number (numeral value) = some value := by
  cases value with
  | ofNat value => exact number_toDigits value
  | negSucc value =>
      rw [numeral, number, if_pos rfl, natural_toDigits]
      rfl

/-- A numeral begins with a digit or with a sign. -/
theorem numeral_cons (value : Int) : ∃ char rest,
    numeral value = char :: rest ∧ (char.isDigit = true ∨ char = '-') := by
  cases value with
  | ofNat value =>
      cases written : Nat.toDigits 10 value with
      | nil => exact absurd written Nat.toDigits_ne_nil
      | cons char rest =>
          exact ⟨char, rest, written, .inl (isDigit_of_cons_toDigits written)⟩
  | negSucc value => exact ⟨'-', _, rfl, .inr rfl⟩

theorem bareValue_numeral (value : Int) :
    bareValue (numeral value) = some (.int value) := by
  obtain ⟨char, rest, written, first⟩ := numeral_cons value
  have other : ∀ letter tail, letter.isDigit = false → letter ≠ '-' →
      numeral value ≠ letter :: tail := by
    intro letter tail nodigit nosign same
    rw [written] at same
    have equal := (List.cons.inj same).1
    rcases first with digit | sign
    · exact ne_of_isDigit digit nodigit equal
    · exact nosign (equal.symm.trans sign)
  have null : numeral value ≠ nullToken :=
    other 'n' _ (by decide) (by decide)
  have yes : numeral value ≠ boolToken true :=
    other 't' _ (by decide) (by decide)
  have no : numeral value ≠ boolToken false :=
    other 'f' _ (by decide) (by decide)
  rw [bareValue, if_neg null, if_neg yes, if_neg no, number_numeral]
  rfl

theorem isBare_of_isDigit (digit : char.isDigit = true) :
    isBare char = true := by
  simp [isBare, Char.isAlphanum, digit]

theorem isBare_toDigits (value : Nat) :
    ∀ char ∈ Nat.toDigits 10 value, isBare char = true := by
  intro char member
  exact isBare_of_isDigit
    (Nat.isDigit_of_mem_toDigits (by decide) (by decide) member)

theorem isBare_numeral (value : Int) :
    ∀ char ∈ numeral value, isBare char = true := by
  cases value with
  | ofNat value => exact isBare_toDigits value
  | negSucc value =>
      intro char member
      rcases List.mem_cons.mp member with rfl | member
      · rfl
      · exact isBare_toDigits _ char member

/-! ### Strings -/

theorem step_text {role : TextRole} {read : List Char} {inner : TextState}
    {next : List Char × TextState}
    (taken : readChar read inner char = some next) :
    step (.text role read inner stack) char =
      some (.text role next.1 next.2 stack) := by
  have inside : ¬ (inner = .plain ∧ char = quote) := by
    rintro ⟨rfl, rfl⟩
    rw [readChar_quote] at taken
    cases taken
  rw [step, if_neg inside, taken]
  rfl

/-- The content of a string is read by the automaton for strings. -/
theorem run_text {role : TextRole} {reached next : List Char × TextState}
    {text : List Char} (taken : readChars reached text = some next) :
    run (.text role reached.1 reached.2 stack) text =
      some (.text role next.1 next.2 stack) := by
  induction text generalizing reached with
  | nil =>
      cases taken
      rfl
  | cons char text induction =>
      rw [readChars] at taken
      split at taken
      · cases taken
      · rename_i first found
        rw [run_of_step text (step_text found)]
        exact induction taken

theorem run_content (role : TextRole) (text : List Char) :
    run (.text role [] .plain stack) (escape text ++ [quote]) =
      some (closeText role text.reverse stack) := by
  have taken : run (.text role [] .plain stack) (escape text) =
      some (.text role (text.reverse ++ []) .plain stack) :=
    run_text (readChars_escape [] text)
  rw [run_of_run [quote] taken, List.append_nil]
  rfl

/-! ### Documents -/

/-- A value has been read; a number or a name may still go on. -/
def Ends (value : Json) (stack : List Frame) (state : State) : Prop :=
  state = .after value stack ∨
    ∃ token, state = .bare token stack ∧
      bareValue token.reverse = some value

/-- What closes or goes on with a list or an object. -/
theorem step_of_ends (ends : Ends value stack state)
    (space : isSpace char = false) (bare : isBare char = false) :
    step state char = afterValue value stack char := by
  rcases ends with rfl | ⟨token, rfl, read⟩
  · simp only [step, space, Bool.false_eq_true, if_false]
  · simp only [step, space, bare, read, Bool.false_eq_true, if_false]

theorem ends_of_bareToken {token : List Char} (nonempty : token ≠ [])
    (bare : ∀ char ∈ token, isBare char = true)
    (read : bareValue token = some value) :
    ∃ state, run (.value stack) token = some state ∧
      Ends value stack state := by
  refine ⟨_, run_bareToken nonempty bare, .inr ⟨_, rfl, ?_⟩⟩
  rw [List.reverse_reverse]
  exact read

theorem numeral_ne_nil (value : Int) : numeral value ≠ [] := by
  obtain ⟨char, rest, written, _⟩ := numeral_cons value
  rw [written]
  exact List.cons_ne_nil _ _

theorem run_quotedValue (text : List Char) :
    run (.value stack) (quoted text) = some (.after (.str text) stack) := by
  rw [quoted, run_of_step _ rfl, run_content, closeText,
    List.reverse_reverse]

theorem run_quotedKey (read : List (List Char × Json)) (key : List Char) :
    run (.key read stack) (quoted key) = some (.colon read key stack) := by
  rw [quoted, run_of_step _ rfl, run_content, closeText,
    List.reverse_reverse]

mutual

/-- A document that has been written is read again, in any place. -/
theorem run_dumps : ∀ (value : Json) (stack : List Frame),
    ∃ state, run (.value stack) (dumps value) = some state ∧
      Ends value stack state
  | .null, _ =>
      ends_of_bareToken (List.cons_ne_nil _ _)
        (List.all_eq_true.mp (by decide)) (by rfl)
  | .bool true, _ =>
      ends_of_bareToken (List.cons_ne_nil _ _)
        (List.all_eq_true.mp (by decide)) (by rfl)
  | .bool false, _ =>
      ends_of_bareToken (List.cons_ne_nil _ _)
        (List.all_eq_true.mp (by decide)) (by rfl)
  | .int value, _ =>
      ends_of_bareToken (numeral_ne_nil value) (isBare_numeral value)
        (bareValue_numeral value)
  | .str text, _ => ⟨_, run_quotedValue text, .inl rfl⟩
  | .arr [], _ => ⟨_, rfl, .inl rfl⟩
  | .arr (item :: items), stack =>
      ⟨_, run_dumpsItems (item :: items) [] stack (List.cons_ne_nil _ _),
        .inl rfl⟩
  | .obj [], _ => ⟨_, rfl, .inl rfl⟩
  | .obj (entry :: members), stack =>
      ⟨_, run_dumpsMembers (entry :: members) [] stack
        (List.cons_ne_nil _ _), .inl rfl⟩

theorem run_dumpsItems : ∀ (items read : List Json) (stack : List Frame),
    items ≠ [] →
    run (.value (.items read :: stack))
        (dumpsItems items ++ [closeBracket]) =
      some (.after (.arr (read.reverse ++ items)) stack)
  | [], _, _, nonempty => absurd rfl nonempty
  | [item], read, stack, _ => by
      obtain ⟨state, reached, ends⟩ := run_dumps item (.items read :: stack)
      have closed : step state closeBracket =
          some (.after (.arr (item :: read).reverse) stack) :=
        step_of_ends ends (by decide) (by decide)
      rw [dumpsItems, run_of_run _ reached, run_of_step [] closed,
        List.reverse_cons]
      rfl
  | item :: next :: rest, read, stack, _ => by
      obtain ⟨state, reached, ends⟩ := run_dumps item (.items read :: stack)
      have following : step state comma =
          some (.value (.items (item :: read) :: stack)) :=
        step_of_ends ends (by decide) (by decide)
      rw [dumpsItems, List.append_assoc, run_of_run _ reached,
        List.cons_append, run_of_step _ following,
        run_dumpsItems (next :: rest) (item :: read) stack
          (List.cons_ne_nil _ _), List.reverse_cons, List.append_assoc]
      rfl

theorem run_dumpsMembers : ∀ (members read : List (List Char × Json))
    (stack : List Frame), members ≠ [] →
    run (.key read stack) (dumpsMembers members ++ [closeBrace]) =
      some (.after (.obj (read.reverse ++ members)) stack)
  | [], _, _, nonempty => absurd rfl nonempty
  | [(key, value)], read, stack, _ => by
      obtain ⟨state, reached, ends⟩ :=
        run_dumps value (.members read key :: stack)
      have closed : step state closeBrace =
          some (.after (.obj ((key, value) :: read).reverse) stack) :=
        step_of_ends ends (by decide) (by decide)
      rw [dumpsMembers, List.append_assoc,
        run_of_run _ (run_quotedKey read key), List.cons_append,
        run_of_step _ rfl, run_of_run _ reached, run_of_step [] closed,
        List.reverse_cons]
      rfl
  | (key, value) :: next :: rest, read, stack, _ => by
      obtain ⟨state, reached, ends⟩ :=
        run_dumps value (.members read key :: stack)
      have following : step state comma =
          some (.key ((key, value) :: read) stack) :=
        step_of_ends ends (by decide) (by decide)
      rw [dumpsMembers, List.append_assoc,
        run_of_run _ (run_quotedKey read key), List.cons_append,
        run_of_step _ rfl, List.append_assoc, run_of_run _ reached,
        List.cons_append, run_of_step _ following,
        run_dumpsMembers (next :: rest) ((key, value) :: read) stack
          (List.cons_ne_nil _ _), List.reverse_cons, List.append_assoc]
      rfl

end

theorem loads_dumps (value : Json) : loads (dumps value) = some value := by
  obtain ⟨state, reached, ends⟩ := run_dumps value []
  rw [loads, reached]
  rcases ends with rfl | ⟨token, rfl, read⟩
  · rfl
  · exact read

/-! ## What may follow a document -/

/-- The text so far may end here. -/
def Complete : State → Prop
  | .after _ [] => True
  | .bare _ [] => True
  | _ => False

theorem complete_of_finish (finished : finish state = some value) :
    Complete state := by
  unfold finish at finished
  split at finished
  · trivial
  · trivial
  · cases finished

/-- Nothing that closes a list or an object follows a complete text. -/
theorem step_of_complete (complete : Complete state)
    (space : isSpace char = false) (bare : isBare char = false) :
    step state char = none := by
  unfold Complete at complete
  split at complete
  · simp only [step, space, afterValue, Bool.false_eq_true, if_false]
  · simp only [step, space, bare, afterValue, Bool.false_eq_true, if_false]
    split <;> rfl
  · exact complete.elim

theorem Complete.step (complete : Complete state) {next : State}
    (stepped : step state char = some next) : Complete next := by
  unfold Complete at complete
  split at complete
  · rename_i value
    simp only [Json.step, afterValue] at stepped
    split at stepped
    · cases stepped
      trivial
    · cases stepped
  · rename_i token
    simp only [Json.step, afterValue] at stepped
    split at stepped
    · cases stepped
      trivial
    · split at stepped
      · cases stepped
      · split at stepped
        · cases stepped
          trivial
        · cases stepped
  · exact complete.elim

theorem Complete.run (complete : Complete state) {next : State}
    {text : List Char} (reached : run state text = some next) :
    Complete next := by
  induction text generalizing state with
  | nil =>
      cases reached
      exact complete
  | cons char text induction =>
      rw [Json.run, Option.bind_eq_some_iff] at reached
      obtain ⟨first, stepped, reached⟩ := reached
      exact induction (complete.step stepped) reached

variable {chunk more tail : List Char} {members : List (List Char × Json)}

theorem run_object (members : List (List Char × Json)) :
    run (.value []) (dumps (.obj members)) =
      some (.after (.obj members) []) := by
  cases members with
  | nil => rfl
  | cons entry members =>
      exact run_dumpsMembers (entry :: members) [] [] (List.cons_ne_nil _ _)

/-- A part of an object is no document. -/
theorem eq_nil_of_loads_part (read : loads chunk = some value)
    (parts : dumps (.obj members) = chunk ++ more) : more = [] := by
  rcases List.eq_nil_or_concat more with nothing | ⟨front, last, rfl⟩
  · exact nothing
  · exfalso
    have written : dumps (.obj members) =
        (openBrace :: dumpsMembers members) ++ [closeBrace] := rfl
    rw [written, List.concat_eq_append, ← List.append_assoc] at parts
    obtain ⟨body, final⟩ := List.append_inj' parts rfl
    obtain rfl := (List.cons.inj final).1
    obtain ⟨state, reached, finished⟩ := Option.bind_eq_some_iff.mp read
    have whole := run_object members
    rw [written, body, List.append_assoc, run_of_run _ reached,
      run_append] at whole
    obtain ⟨next, continued, closed⟩ := Option.bind_eq_some_iff.mp whole
    have complete := (complete_of_finish finished).run continued
    rw [run, step_of_complete complete (by decide) (by decide)] at closed
    cases closed

/-- An object with something after it is no document. -/
theorem eq_nil_of_loads_longer
    (read : loads (dumps (.obj members) ++ tail) = some value)
    (visible : ∀ char ∈ tail.head?, isSpace char = false) : tail = [] := by
  cases tail with
  | nil => rfl
  | cons char tail =>
      exfalso
      have space := visible char rfl
      have stopped : step (.after (.obj members) []) char = none := by
        simp only [step, space, afterValue, Bool.false_eq_true, if_false]
      rw [loads, run_of_run _ (run_object members), run, stopped] at read
      cases read

/-- In a text that begins with an object, the only first part that is a
document is this object. -/
theorem eq_of_loads (read : loads chunk = some value)
    (parts : chunk ++ more = dumps (.obj members) ++ tail)
    (visible : ∀ char ∈ tail.head?, isSpace char = false) :
    chunk = dumps (.obj members) ∧ more = tail := by
  rcases List.append_eq_append_iff.mp parts with
    ⟨missing, object, rest⟩ | ⟨extra, longer, rest⟩
  · have nothing := eq_nil_of_loads_part read object
    subst nothing
    exact ⟨by rw [object, List.append_nil], rest⟩
  · rw [longer] at read
    have nothing : extra = [] := by
      apply eq_nil_of_loads_longer read
      intro char member
      apply visible
      rw [rest, List.head?_append, Option.mem_def.mp member]
      rfl
    subst nothing
    exact ⟨by rw [longer, List.append_nil], rest.symm⟩

/-! ## Which characters are written -/

theorem ascii_of_le {last : Char} (small : last.toNat < 128)
    (le : char.val ≤ last.val) : char.toNat < 128 :=
  Nat.lt_of_le_of_lt (UInt32.le_iff_toNat_le.mp le) small

theorem ascii_of_isBare (bare : isBare char = true) : char.toNat < 128 := by
  have classes : (char.isUpper || char.isLower || char.isDigit ||
      decide (char = '-')) = true := bare
  rw [Bool.or_eq_true, Bool.or_eq_true, Bool.or_eq_true,
    decide_eq_true_eq] at classes
  rcases classes with ((upper | lower) | digit) | rfl
  · have bounds : char.val ≥ 'A'.val ∧ char.val ≤ 'Z'.val :=
      of_decide_eq_true upper
    exact ascii_of_le (by decide) bounds.2
  · have bounds : (decide (char.val ≥ 'a'.val) &&
        decide (char.val ≤ 'z'.val)) = true := lower
    exact ascii_of_le (by decide)
      (of_decide_eq_true (Bool.and_eq_true_iff.mp bounds).2)
  · have bounds := Char.isDigit_iff_toNat.mp digit
    exact Nat.lt_of_le_of_lt bounds.2 (by decide)
  · decide

theorem ascii_quoted (text : List Char) : IsAscii (quoted text) :=
  .cons (by decide) (.append (ascii_escape text) (by decide))

theorem ascii_numeral (value : Int) : IsAscii (numeral value) :=
  fun char member => ascii_of_isBare (isBare_numeral value char member)

mutual

theorem ascii_dumps : ∀ value : Json, IsAscii (dumps value)
  | .null => by decide
  | .bool true => by decide
  | .bool false => by decide
  | .int value => ascii_numeral value
  | .str text => ascii_quoted text
  | .arr items =>
      .cons (by decide) (.append (ascii_dumpsItems items) (by decide))
  | .obj members =>
      .cons (by decide) (.append (ascii_dumpsMembers members) (by decide))

theorem ascii_dumpsItems : ∀ items : List Json, IsAscii (dumpsItems items)
  | [] => by decide
  | [item] => ascii_dumps item
  | item :: next :: rest =>
      .append (ascii_dumps item)
        (.cons (by decide) (ascii_dumpsItems (next :: rest)))

theorem ascii_dumpsMembers : ∀ members : List (List Char × Json),
    IsAscii (dumpsMembers members)
  | [] => by decide
  | [(key, value)] =>
      .append (ascii_quoted key) (.cons (by decide) (ascii_dumps value))
  | (key, value) :: next :: rest =>
      .append (ascii_quoted key)
        (.cons (by decide)
          (.append (ascii_dumps value)
            (.cons (by decide) (ascii_dumpsMembers (next :: rest)))))

end

end Json
