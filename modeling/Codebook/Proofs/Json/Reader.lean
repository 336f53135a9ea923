import Codebook.Proofs.Json.Scalar

/-!
# Reading JSON

A reader that goes through a text character by character, with a stack of the arrays and objects
that are open.  Numbers and words have no mark at their end, so they are kept as they are until a
character comes that is not theirs, or the text ends.

What is here: `step?`, one character; `read?`, the reader; and `read?_of_isText`, that it reads
every JSON text and says what the text says.
-/

set_option autoImplicit false

namespace Codebook.Json

open Text

/-! ## The reader -/

/-- An array or an object that is open, with what it holds so far, the last one first. -/
inductive Frame where
  | array (items : List Datum)
  /-- An object, and the key whose value comes next. -/
  | object (fields : List (String × Datum)) (key : String)

/-- What the reader is about. -/
inductive Stage where
  /-- A value comes next, or nothing if the array may be closed. -/
  | value (mayClose : Bool)
  /-- A key comes next, or nothing if the object may be closed; the object is not on the stack. -/
  | key (fields : List (String × Datum)) (mayClose : Bool)
  /-- Within a string, of which so much has been read, the last character first.  It is a key of
  an object with these fields, or a value. -/
  | text (fields : Option (List (String × Datum))) (raw : List Char) (escaped : Bool)
  /-- A colon comes next. -/
  | colon (fields : List (String × Datum)) (key : String)
  /-- Within a number or a word, of which so much has been read, the last character first. -/
  | bare (raw : List Char)
  /-- Right after a value. -/
  | done (v : Datum)

/-- Where the reader stands. -/
structure State where
  /-- What is open. -/
  frames : List Frame
  /-- What it is about. -/
  stage : Stage

/-- Starts a value. -/
def start? (fs : List Frame) (c : Char) : Option State :=
  if c = '"' then some ⟨fs, .text none [] false⟩
  else if c = '[' then some ⟨.array [] :: fs, .value true⟩
  else if c = '\x7b' then some ⟨fs, .key [] true⟩
  else if isBareChar c then some ⟨fs, .bare [c]⟩
  else none

/-- Goes on after a value. -/
def settle? (fs : List Frame) (v : Datum) (c : Char) : Option State :=
  if isSpace c then some ⟨fs, .done v⟩
  else
    match fs with
    | [] => none
    | .array items :: fs =>
      if c = ',' then some ⟨.array (v :: items) :: fs, .value false⟩
      else if c = ']' then some ⟨fs, .done (.array (v :: items).reverse)⟩
      else none
    | .object fields key :: fs =>
      if c = ',' then some ⟨fs, .key ((key, v) :: fields) false⟩
      else if c = '\x7d' then some ⟨fs, .done (.object ((key, v) :: fields).reverse)⟩
      else none

/-- What is done with a string that has been read: it is a key, or a value. -/
def settleText (fs : List Frame) (fields : Option (List (String × Datum))) (s : List Char) :
    State :=
  match fields with
  | none => ⟨fs, .done (.string (String.ofList s))⟩
  | some fields => ⟨fs, .colon fields (String.ofList s)⟩

/-- Closes an array that is empty. -/
def closeArray? : List Frame → Option State
  | .array [] :: fs => some ⟨fs, .done (.array [])⟩
  | _ => none

/-- Takes one character. -/
def step? (s : State) (c : Char) : Option State :=
  match s.stage with
  | .value mayClose =>
    if isSpace c then some s
    else if c = ']' ∧ mayClose = true then closeArray? s.frames
    else start? s.frames c
  | .key fields mayClose =>
    if isSpace c then some s
    else if c = '"' then some ⟨s.frames, .text (some fields) [] false⟩
    else if c = '\x7d' ∧ mayClose = true then some ⟨s.frames, .done (.object [])⟩
    else none
  | .text fields raw escaped =>
    if escaped then some ⟨s.frames, .text fields (c :: raw) false⟩
    else if c = '"' then (body? raw.reverse).map (settleText s.frames fields)
    else some ⟨s.frames, .text fields (c :: raw) (c == '\\')⟩
  | .colon fields key =>
    if isSpace c then some s
    else if c = ':' then some ⟨.object fields key :: s.frames, .value false⟩
    else none
  | .bare raw =>
    if isBareChar c then some ⟨s.frames, .bare (c :: raw)⟩
    else (bare? raw.reverse).bind fun v => settle? s.frames v c
  | .done v => settle? s.frames v c

/-- Takes some characters. -/
def run? : State → List Char → Option State
  | s, [] => some s
  | s, c :: cs => (step? s c).bind (run? · cs)

/-- The value that has been read when the text ends. -/
def finish? (s : State) : Option Datum :=
  match s.frames, s.stage with
  | [], .done v => some v
  | [], .bare raw => bare? raw.reverse
  | _, _ => none

/-- What a JSON text says; other texts say nothing. -/
def read? (cs : List Char) : Option Datum := (run? ⟨[], .value false⟩ cs).bind finish?

/-! ## Every text is read -/

section

variable {s t : State} {fs : List Frame} {fields : List (String × Datum)} {key : String}
  {mayClose : Bool} {v : Datum} {c : Char} {cs ds : List Char}

theorem run?_append (s : State) (cs ds : List Char) :
    run? s (cs ++ ds) = (run? s cs).bind (run? · ds) := by
  induction cs generalizing s with
  | nil => rfl
  | cons c cs ih =>
    rw [List.cons_append, run?, run?]
    cases step? s c with
    | none => rfl
    | some t => exact ih t

theorem run?_append_of (h : run? s cs = some t) (ds : List Char) :
    run? s (cs ++ ds) = run? t ds := by
  rw [run?_append, h, Option.bind_some]

theorem run?_cons_of (h : step? s c = some t) (cs : List Char) :
    run? s (c :: cs) = run? t cs := by
  rw [run?, h, Option.bind_some]

/-- Blanks change nothing where they may stand. -/
theorem run?_of_isBlank (h : IsBlank cs) (hs : ∀ c, isSpace c = true → step? s c = some s) :
    run? s cs = some s := by
  induction cs with
  | nil => rfl
  | cons c cs ih =>
    rw [run?_cons_of (hs c (h c List.mem_cons_self))]
    exact ih fun x hx => h x (List.mem_cons_of_mem c hx)

theorem run?_value_blanks (h : IsBlank cs) :
    run? ⟨fs, .value mayClose⟩ cs = some ⟨fs, .value mayClose⟩ :=
  run?_of_isBlank h fun _ hc => if_pos hc

theorem run?_key_blanks (h : IsBlank cs) :
    run? ⟨fs, .key fields mayClose⟩ cs = some ⟨fs, .key fields mayClose⟩ :=
  run?_of_isBlank h fun _ hc => if_pos hc

theorem run?_colon_blanks (h : IsBlank cs) :
    run? ⟨fs, .colon fields key⟩ cs = some ⟨fs, .colon fields key⟩ :=
  run?_of_isBlank h fun _ hc => if_pos hc

theorem isBareChar_of_isSpace (h : isSpace c = true) : isBareChar c = false := by
  simp only [isSpace, Bool.or_eq_true, beq_iff_eq] at h
  rcases h with ((rfl | rfl) | rfl) | rfl <;> decide

/-- The reader is right after a value, or would be if what it has read of a word were all. -/
def Rests (s : State) (fs : List Frame) (v : Datum) : Prop :=
  s = ⟨fs, .done v⟩ ∨ ∃ raw, s = ⟨fs, .bare raw⟩ ∧ bare? raw.reverse = some v

namespace Rests

theorem step?_eq (h : Rests s fs v) (hc : isBareChar c = false) : step? s c = settle? fs v c := by
  rcases h with rfl | ⟨raw, rfl, hraw⟩
  · rfl
  · have hstep : step? ⟨fs, .bare raw⟩ c = (bare? raw.reverse).bind fun v => settle? fs v c :=
      if_neg (by simp [hc])
    rw [hstep, hraw, Option.bind_some]

theorem blanks (h : Rests s fs v) (hcs : IsBlank cs) : ∃ t, run? s cs = some t ∧ Rests t fs v := by
  cases cs with
  | nil => exact ⟨s, rfl, h⟩
  | cons c cs =>
    have hspace := hcs c List.mem_cons_self
    refine ⟨⟨fs, .done v⟩, ?_, .inl rfl⟩
    rw [run?_cons_of ((h.step?_eq (isBareChar_of_isSpace hspace)).trans (if_pos hspace))]
    exact run?_of_isBlank (fun x hx => hcs x (List.mem_cons_of_mem c hx)) fun x hx => if_pos hx

theorem finish?_eq (h : Rests s [] v) : finish? s = some v := by
  rcases h with rfl | ⟨raw, rfl, hraw⟩
  · rfl
  · exact hraw

end Rests

/-! ## Strings -/

/-- A text that is kept where it stands within a string. -/
def IsKept (cs : List Char) : Prop :=
  ∀ (fs : List Frame) (fields : Option (List (String × Datum))) (raw : List Char),
    run? ⟨fs, .text fields raw false⟩ cs = some ⟨fs, .text fields (cs.reverse ++ raw) false⟩

namespace IsKept

theorem append (hcs : IsKept cs) (hds : IsKept ds) : IsKept (cs ++ ds) := by
  intro fs fields raw
  rw [run?_append_of (hcs fs fields raw), hds, List.reverse_append, List.append_assoc]

/-- A character other than the quote and the backslash. -/
theorem plain (hquote : c ≠ '"') (hbackslash : c ≠ '\\') : IsKept [c] := by
  intro fs fields raw
  simp [run?, step?, hquote, hbackslash]

/-- A backslash and the character after it. -/
theorem escape (e : Char) : IsKept ['\\', e] := fun _ _ _ => rfl

/-- The digits of a unit. -/
theorem digits {n m : Nat} (h : hexFrom? n cs = some m) : IsKept cs := by
  induction cs generalizing n with
  | nil => exact fun _ _ _ => rfl
  | cons d cs ih =>
    have hmarks : hexDigit? '"' = none ∧ hexDigit? '\\' = none := by decide
    rw [hexFrom?] at h
    split at h
    · rename_i hd
      refine (plain ?_ ?_).append (ih h)
      · rintro rfl
        exact absurd hd (by simp [hmarks])
      · rintro rfl
        exact absurd hd (by simp [hmarks])
    · cases h

/-- What stands between the quotes of a string. -/
theorem of_isBody {s : List Char} (h : IsBody cs s) : IsKept cs := by
  induction h with
  | nil => exact fun _ _ _ => rfl
  | plain hc hquote hbackslash h ih => exact (plain hquote hbackslash).append ih
  | @named e c cs s he h ih => exact (escape e).append ih
  | unit hn hhigh hlow h ih => exact (escape 'u').append ((digits hn).append ih)
  | pair hn hhigh hm hlow h ih =>
    exact (escape 'u').append ((digits hn).append ((escape 'u').append ((digits hm).append ih)))

end IsKept

/-- A string is read from quote to quote. -/
theorem run?_string {s : List Char} (h : IsBody cs s)
    (fields : Option (List (String × Datum))) (ds : List Char) :
    run? ⟨fs, .text fields [] false⟩ (cs ++ '"' :: ds) = run? (settleText fs fields s) ds := by
  rw [run?_append_of (IsKept.of_isBody h fs fields []), List.append_nil]
  have hstep : step? ⟨fs, .text fields cs.reverse false⟩ '"' = some (settleText fs fields s) := by
    show (body? cs.reverse.reverse).map (settleText fs fields) = _
    rw [List.reverse_reverse, body?_of_isBody h]
    rfl
  exact run?_cons_of hstep ds

/-! ## Values -/

/-- A character that starts a value does so wherever a value may come. -/
theorem step?_value (hspace : isSpace c = false) (hclose : c ≠ ']') :
    step? ⟨fs, .value mayClose⟩ c = start? fs c := by
  simp [step?, hspace, hclose]

theorem run?_bare_append {raw : List Char} (h : ∀ c ∈ cs, isBareChar c = true) :
    run? ⟨fs, .bare raw⟩ cs = some ⟨fs, .bare (cs.reverse ++ raw)⟩ := by
  induction cs generalizing raw with
  | nil => rfl
  | cons c cs ih =>
    have hstep : step? ⟨fs, .bare raw⟩ c = some ⟨fs, .bare (c :: raw)⟩ :=
      if_pos (h c List.mem_cons_self)
    rw [run?_cons_of hstep, ih fun x hx => h x (List.mem_cons_of_mem c hx)]
    simp

/-- A number or a word is read wherever a value may come. -/
theorem run?_bare (h : IsBare cs v) :
    ∃ s, run? ⟨fs, .value mayClose⟩ cs = some s ∧ Rests s fs v := by
  have hall := h.isBareChar
  obtain ⟨c, cs, rfl⟩ := List.exists_cons_of_ne_nil h.ne_nil
  have hc := hall c List.mem_cons_self
  have hstart : step? ⟨fs, .value mayClose⟩ c = some ⟨fs, .bare [c]⟩ := by
    have hne {x : Char} (hx : isBareChar x = false) : c ≠ x := by
      rintro rfl
      simp [hc] at hx
    have hspace : isSpace c = false :=
      Bool.eq_false_iff.2 fun hspace => by simp [isBareChar_of_isSpace hspace] at hc
    rw [step?_value hspace (hne (by decide)), start?, if_neg (hne (by decide)),
      if_neg (hne (by decide)), if_neg (hne (by decide)), if_pos hc]
  refine ⟨⟨fs, .bare (c :: cs).reverse⟩, ?_, .inr ⟨_, rfl, ?_⟩⟩
  · rw [run?_cons_of hstart, run?_bare_append fun x hx => hall x (List.mem_cons_of_mem c hx)]
    simp
  · rw [List.reverse_reverse]
    exact bare?_eq_some_iff.2 h

/-- What it means that a part of a text is read: wherever it may stand, the reader comes to rest
after its last value, with all that came before on the stack. -/
def Part.Reads (cs : List Char) : Part → Prop
  | .value v => ∀ fs mayClose, ∃ s, run? ⟨fs, .value mayClose⟩ cs = some s ∧ Rests s fs v
  | .items vs => ∀ fs items mayClose, ∃ s held v,
      run? ⟨.array items :: fs, .value mayClose⟩ cs = some s ∧ Rests s (.array held :: fs) v ∧
        (v :: held).reverse = items.reverse ++ vs
  | .fields new => ∀ fs fields mayClose, ∃ s held key v,
      run? ⟨fs, .key fields mayClose⟩ cs = some s ∧ Rests s (.object held key :: fs) v ∧
        ((key, v) :: held).reverse = fields.reverse ++ new

/-- A value is read with the blanks around it. -/
theorem Part.Reads.around (h : (Part.value v).Reads cs) {before after : List Char}
    (hbefore : IsBlank before) (hafter : IsBlank after) (fs : List Frame) (mayClose : Bool) :
    ∃ s, run? ⟨fs, .value mayClose⟩ (before ++ (cs ++ after)) = some s ∧ Rests s fs v := by
  obtain ⟨s, hrun, hrests⟩ := h fs mayClose
  obtain ⟨t, hrun', hrests⟩ := hrests.blanks hafter
  refine ⟨t, ?_, hrests⟩
  rw [run?_append_of (run?_value_blanks hbefore), run?_append_of hrun, hrun']

/-- A key is read with its colon. -/
theorem run?_key {ks : List Char} (h : IsKey ks key) (ds : List Char) :
    run? ⟨fs, .key fields mayClose⟩ (ks ++ ':' :: ds) =
      run? ⟨.object fields key :: fs, .value false⟩ ds := by
  obtain ⟨hbefore, hbody, hafter⟩ := h
  have hopen (fields : List (String × Datum)) :
      step? ⟨fs, .key fields mayClose⟩ '"' = some ⟨fs, .text (some fields) [] false⟩ := rfl
  have hcolon (key : String) :
      step? ⟨fs, .colon fields key⟩ ':' = some ⟨.object fields key :: fs, .value false⟩ := rfl
  rw [List.append_assoc, run?_append_of (run?_key_blanks hbefore), List.cons_append,
    run?_cons_of (hopen fields), List.append_assoc, List.cons_append, run?_string hbody,
    settleText, run?_append_of (run?_colon_blanks hafter), run?_cons_of (hcolon _)]

/-- A value that is read from its first mark to its last. -/
theorem run?_enclosed {first last : Char} (hopen : step? ⟨fs, .value mayClose⟩ first = some s)
    (hrun : run? s cs = some t) (hclose : step? t last = some ⟨fs, .done v⟩) :
    ∃ u, run? ⟨fs, .value mayClose⟩ (first :: (cs ++ [last])) = some u ∧ Rests u fs v := by
  refine ⟨_, ?_, .inl rfl⟩
  rw [run?_cons_of hopen, run?_append_of hrun, run?_cons_of hclose, run?]

/-- What the grammar has is read, by induction on how the grammar has it. -/
theorem reads_of_denotes {p : Part} (h : Denotes cs p) : p.Reads cs := by
  induction h with
  | bare h => exact fun fs mayClose => run?_bare h
  | @string cs s h =>
    intro fs mayClose
    have hopen : step? ⟨fs, .value mayClose⟩ '"' = some ⟨fs, .text none [] false⟩ := rfl
    refine ⟨_, ?_, .inl rfl⟩
    rw [run?_cons_of hopen, run?_string h]
    rfl
  | emptyArray h => exact fun fs mayClose => run?_enclosed rfl (run?_value_blanks h) rfl
  | @array cs vs h ih =>
    intro fs mayClose
    obtain ⟨s, held, v, hrun, hrests, hheld⟩ := ih fs [] true
    have hclose : step? s ']' = some ⟨fs, .done (.array (v :: held).reverse)⟩ :=
      hrests.step?_eq (by decide)
    rw [hheld] at hclose
    exact run?_enclosed rfl hrun hclose
  | emptyObject h => exact fun fs mayClose => run?_enclosed rfl (run?_key_blanks h) rfl
  | @object cs new h ih =>
    intro fs mayClose
    obtain ⟨s, held, key, v, hrun, hrests, hheld⟩ := ih fs [] true
    have hclose : step? s '\x7d' = some ⟨fs, .done (.object ((key, v) :: held).reverse)⟩ :=
      hrests.step?_eq (by decide)
    rw [hheld] at hclose
    exact run?_enclosed rfl hrun hclose
  | @lastItem before cs after v hbefore h hafter ih =>
    intro fs items mayClose
    obtain ⟨s, hrun, hrests⟩ := ih.around hbefore hafter (.array items :: fs) mayClose
    exact ⟨s, items, v, hrun, hrests, List.reverse_cons ..⟩
  | @item before cs after ds v vs hbefore h hafter hmore ih ihmore =>
    intro fs items mayClose
    obtain ⟨s, hrun, hrests⟩ := ih.around hbefore hafter (.array items :: fs) mayClose
    have hcomma : step? s ',' = some ⟨.array (v :: items) :: fs, .value false⟩ :=
      hrests.step?_eq (by decide)
    obtain ⟨t, held, w, hrun', hrests', hheld⟩ := ihmore fs (v :: items) false
    refine ⟨t, held, w, ?_, hrests', by simpa using hheld⟩
    rw [← List.append_assoc cs, ← List.append_assoc before, run?_append_of hrun,
      run?_cons_of hcomma, hrun']
  | @lastField ks before cs after key v hkey hbefore h hafter ih =>
    intro fs fields mayClose
    obtain ⟨s, hrun, hrests⟩ := ih.around hbefore hafter (.object fields key :: fs) false
    exact ⟨s, fields, key, v, (run?_key hkey _).trans hrun, hrests, List.reverse_cons ..⟩
  | @field ks before cs after ds key v new hkey hbefore h hafter hmore ih ihmore =>
    intro fs fields mayClose
    obtain ⟨s, hrun, hrests⟩ := ih.around hbefore hafter (.object fields key :: fs) false
    have hcomma : step? s ',' = some ⟨fs, .key ((key, v) :: fields) false⟩ :=
      hrests.step?_eq (by decide)
    obtain ⟨t, held, key', w, hrun', hrests', hheld⟩ := ihmore fs ((key, v) :: fields) false
    refine ⟨t, held, key', w, ?_, hrests', by simpa using hheld⟩
    rw [run?_key hkey, ← List.append_assoc cs, ← List.append_assoc before, run?_append_of hrun,
      run?_cons_of hcomma, hrun']

/-- **Every JSON text is read, and what it says is what is read.** -/
theorem read?_of_isText (h : IsText cs v) : read? cs = some v := by
  obtain ⟨hbefore, h, hafter⟩ := h
  obtain ⟨s, hrun, hrests⟩ := Part.Reads.around (reads_of_denotes h) hbefore hafter [] false
  rw [read?, hrun, Option.bind_some, hrests.finish?_eq]

end

end Codebook.Json
