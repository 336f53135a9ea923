import Codebook.Proofs.Json.Reader

/-!
# Only JSON is read

What the reader still needs at some place is told by the frames and by the stage.  A value in an
array needs the rest of the array after it, and then what the frames outside of the array need.  If
the reader comes to an end, what it still had to read was of that form at every place, and so it was
a whole text at the start.

What is here: `Closes`, what is needed after a value; `Follows`, what is needed anywhere, and
`follows_of_run?`; and `read?_eq_some_iff`, that the texts that are read are the JSON texts.
-/

set_option autoImplicit false

namespace Codebook.Json

/-! ## What is needed -/

/-- What is needed after a value that stands in some frames, for all to be one value. -/
def Closes : List Frame → Datum → List Char → Datum → Prop
  | [], w, cs, v => IsBlank cs ∧ w = v
  | .array items :: fs, w, cs, v => ∃ tail vs rest, IsTail .items tail vs ∧
      cs = tail ++ ']' :: rest ∧ Closes fs (.array ((w :: items).reverse ++ vs)) rest v
  | .object fields key :: fs, w, cs, v => ∃ tail new rest, IsTail .fields tail new ∧
      cs = tail ++ '\x7d' :: rest ∧
        Closes fs (.object (((key, w) :: fields).reverse ++ new)) rest v

/-- What is needed where a value comes next. -/
def ValueFollows (fs : List Frame) (cs : List Char) (v : Datum) : Prop :=
  ∃ before t rest w, IsBlank before ∧ Denotes t (.value w) ∧ cs = before ++ (t ++ rest) ∧
    Closes fs w rest v

/-- What is needed where a key comes next. -/
def KeyFollows (fs : List Frame) (fields : List (String × Datum)) (cs : List Char) (v : Datum) :
    Prop :=
  ∃ ks key rest, IsKey ks key ∧ cs = ks ++ ':' :: rest ∧
    ValueFollows (.object fields key :: fs) rest v

/-- What is needed where a colon comes next. -/
def ColonFollows (fs : List Frame) (fields : List (String × Datum)) (key : String)
    (cs : List Char) (v : Datum) : Prop :=
  ∃ before rest, IsBlank before ∧ cs = before ++ ':' :: rest ∧
    ValueFollows (.object fields key :: fs) rest v

/-- What is needed after a string. -/
def TextFollows (fs : List Frame) (fields : Option (List (String × Datum))) (s cs : List Char)
    (v : Datum) : Prop :=
  match fields with
  | none => Closes fs (.string (String.ofList s)) cs v
  | some fields => ColonFollows fs fields (String.ofList s) cs v

/-- What is needed where the reader stands, for all to be one value. -/
def Follows (s : State) (cs : List Char) (v : Datum) : Prop :=
  match s.stage with
  | .value mayClose =>
    ValueFollows s.frames cs v ∨ mayClose = true ∧ ∃ fs before rest, s.frames = .array [] :: fs ∧
      IsBlank before ∧ cs = before ++ ']' :: rest ∧ Closes fs (.array []) rest v
  | .key fields mayClose =>
    KeyFollows s.frames fields cs v ∨ mayClose = true ∧ ∃ before rest,
      IsBlank before ∧ cs = before ++ '\x7d' :: rest ∧ Closes s.frames (.object []) rest v
  -- Whether a backslash came last does not matter, since the whole string is read again.
  | .text fields raw _ => ∃ t b rest, cs = t ++ '"' :: rest ∧
      body? (raw.reverse ++ t) = some b ∧ TextFollows s.frames fields b rest v
  | .colon fields key => ColonFollows s.frames fields key cs v
  | .bare raw => ∃ t rest w, cs = t ++ rest ∧ bare? (raw.reverse ++ t) = some w ∧
      Closes s.frames w rest v
  | .done w => Closes s.frames w cs v

/-! ## One character -/

section

variable {s t : State} {fs : List Frame} {fields : List (String × Datum)} {key : String}
  {mayClose : Bool} {v w : Datum} {c : Char} {cs ds : List Char}

/-- Blanks may stand after a value. -/
theorem Closes.cons (hc : isSpace c = true) (h : Closes fs w cs v) : Closes fs w (c :: cs) v := by
  cases fs with
  | nil => exact ⟨h.1.cons hc, h.2⟩
  | cons f fs =>
    cases f with
    | array items =>
      obtain ⟨tail, vs, rest, htail, rfl, h⟩ := h
      exact ⟨c :: tail, vs, rest, htail.cons hc, rfl, h⟩
    | object fields key =>
      obtain ⟨tail, new, rest, htail, rfl, h⟩ := h
      exact ⟨c :: tail, new, rest, htail.cons hc, rfl, h⟩

theorem ValueFollows.cons (hc : isSpace c = true) (h : ValueFollows fs cs v) :
    ValueFollows fs (c :: cs) v := by
  obtain ⟨before, t, rest, w, hbefore, ht, rfl, h⟩ := h
  exact ⟨c :: before, t, rest, w, hbefore.cons hc, ht, rfl, h⟩

/-- Where a value comes next in an array, the rest of the array comes next. -/
theorem ValueFollows.exists_items {items : List Datum}
    (h : ValueFollows (.array items :: fs) cs v) :
    ∃ ds vs rest, Denotes ds (.items vs) ∧ cs = ds ++ ']' :: rest ∧
      Closes fs (.array (items.reverse ++ vs)) rest v := by
  obtain ⟨before, t, -, w, hbefore, ht, rfl, tail, vs, rest, htail, rfl, h⟩ := h
  exact ⟨_, w :: vs, rest, denotes_items hbefore ht htail, by simp, by simpa using h⟩

/-- Where a key comes next, the rest of the object comes next. -/
theorem KeyFollows.exists_fields (h : KeyFollows fs fields cs v) :
    ∃ ds new rest, Denotes ds (.fields new) ∧ cs = ds ++ '\x7d' :: rest ∧
      Closes fs (.object (fields.reverse ++ new)) rest v := by
  obtain ⟨ks, key, rest, hkey, rfl, h⟩ := h
  obtain ⟨before, t, -, w, hbefore, ht, rfl, tail, new, rest, htail, rfl, h⟩ := h
  exact ⟨_, (key, w) :: new, rest, denotes_fields hkey hbefore ht htail, by simp, by simpa using h⟩

theorem KeyFollows.cons (hc : isSpace c = true) (h : KeyFollows fs fields cs v) :
    KeyFollows fs fields (c :: cs) v := by
  obtain ⟨ks, key, rest, ⟨hbefore, hbody, hafter⟩, rfl, h⟩ := h
  exact ⟨_, _, rest, .mk (hbefore.cons hc) hbody hafter, by simp, h⟩

/-- A string before a colon is a key. -/
theorem ColonFollows.keyFollows {body k : List Char}
    (h : ColonFollows fs fields (String.ofList k) cs v) (hbody : IsBody body k) :
    KeyFollows fs fields ('"' :: (body ++ '"' :: cs)) v := by
  obtain ⟨after, rest, hafter, rfl, h⟩ := h
  exact ⟨_, _, rest, .mk isBlank_nil hbody hafter, by simp, h⟩

theorem closes_of_settle? (hstep : settle? fs w c = some t) (h : Follows t cs v) :
    Closes fs w (c :: cs) v := by
  unfold settle? at hstep
  split at hstep
  · rename_i hc
    obtain rfl := Option.some.inj hstep
    exact Closes.cons hc h
  split at hstep
  · cases hstep
  · rename_i items fs
    split at hstep
    · rename_i hc
      obtain rfl := Option.some.inj hstep
      rcases h with h | ⟨hclose, -⟩
      · obtain ⟨ds, vs, rest, hds, rfl, h'⟩ := ValueFollows.exists_items h
        exact ⟨',' :: ds, vs, rest, .more isBlank_nil hds, by rw [hc, List.cons_append], h'⟩
      · cases hclose
    split at hstep
    · rename_i hc
      obtain rfl := Option.some.inj hstep
      exact ⟨[], [], cs, .last isBlank_nil, by rw [hc, List.nil_append], by rwa [List.append_nil]⟩
    · cases hstep
  · rename_i fields key fs
    split at hstep
    · rename_i hc
      obtain rfl := Option.some.inj hstep
      rcases h with h | ⟨hclose, -⟩
      · obtain ⟨ds, new, rest, hds, rfl, h'⟩ := KeyFollows.exists_fields h
        exact ⟨',' :: ds, new, rest, .more isBlank_nil hds, by rw [hc, List.cons_append], h'⟩
      · cases hclose
    split at hstep
    · rename_i hc
      obtain rfl := Option.some.inj hstep
      exact ⟨[], [], cs, .last isBlank_nil, by rw [hc, List.nil_append], by rwa [List.append_nil]⟩
    · cases hstep

theorem valueFollows_of_start? (hstep : start? fs c = some t) (h : Follows t cs v) :
    ValueFollows fs (c :: cs) v := by
  unfold start? at hstep
  split at hstep
  · rename_i hc
    obtain rfl := Option.some.inj hstep
    obtain ⟨u, b, rest, rfl, hb, h⟩ := h
    exact ⟨[], _, rest, _, isBlank_nil, .string (body?_eq_some_iff.1 hb), by simp [hc], h⟩
  split at hstep
  · rename_i hc
    obtain rfl := Option.some.inj hstep
    rcases h with h | ⟨-, fs', before, rest, hframes, hbefore, rfl, h⟩
    · obtain ⟨ds, vs, rest, hds, rfl, h'⟩ := ValueFollows.exists_items h
      exact ⟨[], _, rest, _, isBlank_nil, .array hds, by simp [hc], h'⟩
    · obtain ⟨-, rfl⟩ := List.cons.inj hframes
      exact ⟨[], _, rest, _, isBlank_nil, .emptyArray hbefore, by simp [hc], h⟩
  split at hstep
  · rename_i hc
    obtain rfl := Option.some.inj hstep
    rcases h with h | ⟨-, before, rest, hbefore, rfl, h⟩
    · obtain ⟨ds, new, rest, hds, rfl, h'⟩ := KeyFollows.exists_fields h
      exact ⟨[], _, rest, _, isBlank_nil, .object hds, by simp [hc], h'⟩
    · exact ⟨[], _, rest, _, isBlank_nil, .emptyObject hbefore, by simp [hc], h⟩
  split at hstep
  · obtain rfl := Option.some.inj hstep
    obtain ⟨u, rest, w, rfl, hw, h⟩ := h
    exact ⟨[], c :: u, rest, w, isBlank_nil, .bare (bare?_eq_some_iff.1 hw), rfl, h⟩
  · cases hstep

theorem follows_value (hstep : step? ⟨fs, .value mayClose⟩ c = some t)
    (h : Follows t cs v) : Follows ⟨fs, .value mayClose⟩ (c :: cs) v := by
  simp only [step?] at hstep
  split at hstep
  · rename_i hc
    obtain rfl := Option.some.inj hstep
    rcases h with h | ⟨hclose, fs', before, rest, hframes, hbefore, rfl, h⟩
    · exact .inl (h.cons hc)
    · exact .inr ⟨hclose, fs', c :: before, rest, hframes, hbefore.cons hc, rfl, h⟩
  split at hstep
  · rename_i hc
    unfold closeArray? at hstep
    split at hstep
    · rename_i fs
      obtain rfl := Option.some.inj hstep
      exact .inr ⟨hc.2, fs, [], cs, rfl, isBlank_nil, by rw [hc.1, List.nil_append], h⟩
    · cases hstep
  · exact .inl (valueFollows_of_start? hstep h)

theorem follows_key (hstep : step? ⟨fs, .key fields mayClose⟩ c = some t)
    (h : Follows t cs v) : Follows ⟨fs, .key fields mayClose⟩ (c :: cs) v := by
  simp only [step?] at hstep
  split at hstep
  · rename_i hc
    obtain rfl := Option.some.inj hstep
    rcases h with h | ⟨hclose, before, rest, hbefore, rfl, h⟩
    · exact .inl (h.cons hc)
    · exact .inr ⟨hclose, c :: before, rest, hbefore.cons hc, rfl, h⟩
  split at hstep
  · rename_i hc
    obtain rfl := Option.some.inj hstep
    obtain ⟨u, b, rest, rfl, hb, h⟩ := h
    exact .inl (hc ▸ h.keyFollows (body?_eq_some_iff.1 hb))
  split at hstep
  · rename_i hc
    obtain rfl := Option.some.inj hstep
    exact .inr ⟨hc.2, [], cs, isBlank_nil, by rw [hc.1, List.nil_append], h⟩
  · cases hstep

theorem follows_text {fields : Option (List (String × Datum))} {raw : List Char}
    {escaped : Bool} (hstep : step? ⟨fs, .text fields raw escaped⟩ c = some t)
    (h : Follows t cs v) : Follows ⟨fs, .text fields raw escaped⟩ (c :: cs) v := by
  have hkeep {escaped : Bool} (h : Follows ⟨fs, .text fields (c :: raw) escaped⟩ cs v) :
      Follows ⟨fs, .text fields raw escaped⟩ (c :: cs) v := by
    obtain ⟨u, b, rest, rfl, hb, h⟩ := h
    exact ⟨c :: u, b, rest, rfl, by simpa using hb, h⟩
  simp only [step?] at hstep
  split at hstep
  · obtain rfl := Option.some.inj hstep
    exact hkeep h
  split at hstep
  · rename_i hc
    obtain ⟨b, hb, rfl⟩ := Option.map_eq_some_iff.1 hstep
    refine ⟨[], b, cs, by rw [hc, List.nil_append], by rwa [List.append_nil], ?_⟩
    cases fields with
    | none => exact h
    | some fields => exact h
  · obtain rfl := Option.some.inj hstep
    exact hkeep h

theorem follows_colon (hstep : step? ⟨fs, .colon fields key⟩ c = some t)
    (h : Follows t cs v) : Follows ⟨fs, .colon fields key⟩ (c :: cs) v := by
  simp only [step?] at hstep
  split at hstep
  · rename_i hc
    obtain rfl := Option.some.inj hstep
    obtain ⟨before, rest, hbefore, rfl, h⟩ := h
    exact ⟨c :: before, rest, hbefore.cons hc, rfl, h⟩
  split at hstep
  · rename_i hc
    obtain rfl := Option.some.inj hstep
    rcases h with h | ⟨hclose, -⟩
    · exact ⟨[], cs, isBlank_nil, by rw [hc, List.nil_append], h⟩
    · cases hclose
  · cases hstep

theorem follows_bare {raw : List Char} (hstep : step? ⟨fs, .bare raw⟩ c = some t)
    (h : Follows t cs v) : Follows ⟨fs, .bare raw⟩ (c :: cs) v := by
  simp only [step?] at hstep
  split at hstep
  · obtain rfl := Option.some.inj hstep
    obtain ⟨u, rest, w, rfl, hw, h⟩ := h
    exact ⟨c :: u, rest, w, rfl, by simpa using hw, h⟩
  · obtain ⟨w, hw, hsettle⟩ := Option.bind_eq_some_iff.1 hstep
    exact ⟨[], c :: cs, w, rfl, by rwa [List.append_nil], closes_of_settle? hsettle h⟩

/-- **One character does what is needed.** -/
theorem follows_of_step? (hstep : step? s c = some t) (h : Follows t cs v) :
    Follows s (c :: cs) v := by
  obtain ⟨fs, stage⟩ := s
  cases stage with
  | value mayClose => exact follows_value hstep h
  | key fields mayClose => exact follows_key hstep h
  | text fields raw escaped => exact follows_text hstep h
  | colon fields key => exact follows_colon hstep h
  | bare raw => exact follows_bare hstep h
  | done w => exact closes_of_settle? hstep h

/-! ## All characters -/

theorem follows_of_finish? (h : finish? s = some v) : Follows s [] v := by
  obtain ⟨fs, stage⟩ := s
  unfold finish? at h
  split at h
  · rename_i hframes hstage
    obtain rfl := Option.some.inj h
    obtain ⟨rfl, rfl⟩ : fs = [] ∧ stage = _ := ⟨hframes, hstage⟩
    exact ⟨isBlank_nil, rfl⟩
  · rename_i hframes hstage
    obtain ⟨rfl, rfl⟩ : fs = [] ∧ stage = _ := ⟨hframes, hstage⟩
    exact ⟨[], [], v, rfl, by rwa [List.append_nil], isBlank_nil, rfl⟩
  · cases h

theorem follows_of_run? (h : (run? s cs).bind finish? = some v) : Follows s cs v := by
  induction cs generalizing s with
  | nil => exact follows_of_finish? h
  | cons c cs ih =>
    cases hstep : step? s c with
    | none => simp [run?, hstep] at h
    | some t => exact follows_of_step? hstep (ih (by simpa [run?, hstep] using h))

/-- **The texts that are read are the JSON texts**, and each says what is read. -/
theorem read?_eq_some_iff : read? cs = some v ↔ IsText cs v := by
  refine ⟨fun h => ?_, read?_of_isText⟩
  rcases follows_of_run? h with ⟨before, t, after, w, hbefore, ht, rfl, hafter, rfl⟩ | ⟨hclose, -⟩
  · exact .mk hbefore ht hafter
  · cases hclose

/-- A comma promises one more item. -/
example : read? "[1,]".toList = none := rfl

end

end Codebook.Json
