import HomeGateway.Json.Parser
import HomeGateway.Json.Printer

/-!
Documents and their texts. Whatever is made of words, texts, lists and records is read from its
own text, as long as it is not nested deeper than a reader can be.
-/

namespace HomeGateway.Json

/-! Escapes -/

theorem codeUnit?_control : ∀ n < 32,
    codeUnit? '0' '0' (Hex.digit (n / 16)) (Hex.digit (n % 16)) = some n := by
  decide

theorem unescape?_escapeChar (c : Char) (rest : List Char) :
    unescape? (escapeChar c ++ rest) = (unescape? rest).map (c :: ·) := by
  unfold escapeChar
  by_cases hquote : c = '"'
  · subst hquote
    cases h : unescape? rest <;> simp [unescape?, simpleEscape?, h]
  rw [if_neg hquote]
  by_cases hslash : c = '\\'
  · subst hslash
    cases h : unescape? rest <;> simp [unescape?, simpleEscape?, h]
  rw [if_neg hslash]
  by_cases hcontrol : c.toNat < 32
  · have hlow : ¬ 0xDC00 ≤ c.toNat := by omega
    have hhigh : ¬ 0xD800 ≤ c.toNat := by omega
    rw [if_pos hcontrol]
    simp only [List.cons_append, List.nil_append, unescape?, codeUnit?_control _ hcontrol,
      Option.bind_eq_bind, Option.bind_some, hlow, hhigh, false_and, if_false, Char.ofNat_toNat]
    cases unescape? rest <;> rfl
  · rw [if_neg hcontrol, List.singleton_append, unescape?.eq_def]
    split <;> simp_all

/-- What is escaped is read as what it was. -/
theorem unescape?_escape (cs : List Char) : unescape? (escape cs) = some cs := by
  induction cs with
  | nil => rfl
  | cons c rest ih =>
    change unescape? (escapeChar c ++ escape rest) = _
    rw [unescape?_escapeChar, ih]
    rfl

theorem literal?_escapeChar (c : Char) (seen rest : List Char) :
    literal? seen (escapeChar c ++ rest) = literal? ((escapeChar c).reverse ++ seen) rest := by
  unfold escapeChar
  by_cases hquote : c = '"'
  · subst hquote
    simp [literal?, simpleEscape?]
  rw [if_neg hquote]
  by_cases hslash : c = '\\'
  · subst hslash
    simp [literal?, simpleEscape?]
  rw [if_neg hslash]
  by_cases hcontrol : c.toNat < 32
  · simp [hcontrol, literal?, codeUnit?_control _ hcontrol]
  · rw [if_neg hcontrol, List.singleton_append, literal?.eq_def]
    split <;> simp_all [-Nat.not_lt]

/-- No quote within an escaped text ends it. -/
theorem literal?_escape (cs seen rest : List Char) :
    literal? seen (escape cs ++ '"' :: rest) = some (seen.reverse ++ escape cs, rest) := by
  induction cs generalizing seen with
  | nil => simp [escape, literal?]
  | cons c more ih =>
    change literal? seen ((escapeChar c ++ escape more) ++ _) =
      some (seen.reverse ++ (escapeChar c ++ escape more), rest)
    rw [List.append_assoc, literal?_escapeChar, ih]
    simp

/-! Numbers -/

/-- What may come after a complete value. -/
def Delimited (rest : List Char) : Prop :=
  ∀ c ∈ rest.head?, c = ',' ∨ c = ']' ∨ c = '\x7d'

theorem takeDigits_append {digits rest : List Char} (hdigits : ∀ c ∈ digits, c.isDigit)
    (hrest : Delimited rest) : takeDigits (digits ++ rest) = (digits, rest) := by
  have hstop : rest.takeWhile Char.isDigit = [] ∧ rest.dropWhile Char.isDigit = rest := by
    cases rest with
    | nil => simp
    | cons c more =>
      rcases hrest c rfl with rfl | rfl | rfl <;> simp [List.takeWhile, List.dropWhile]
  unfold takeDigits
  rw [List.takeWhile_append_of_pos hdigits, List.dropWhile_append_of_pos hdigits, hstop.1, hstop.2,
    List.append_nil]

/-- No number but zero starts with a zero. -/
theorem head?_toDigits {n : Nat} (h : 0 < n) : (Nat.toDigits 10 n).head? ≠ some '0' := by
  induction n using Nat.strongRecOn with
  | ind n ih =>
    by_cases hsmall : n < 10
    · have hdigit : ∀ d < 10, 0 < d → d.digitChar ≠ '0' := by decide
      simpa [Nat.toDigits_of_lt_base hsmall] using hdigit n hsmall h
    · rw [Nat.toDigits_of_base_le (by decide) (by omega), List.head?_append]
      have hhead := ih (n / 10) (by omega) (by omega)
      cases hdigits : Nat.toDigits 10 (n / 10) with
      | nil => exact absurd hdigits Nat.toDigits_ne_nil
      | cons d more =>
        rw [hdigits] at hhead
        exact hhead

theorem toList_render_ofInt (n : Int) :
    (Number.ofInt n).render.toList =
      (if n < 0 then ['-'] else []) ++ Nat.toDigits 10 n.natAbs := by
  by_cases h : n < 0 <;> simp [Number.render, Number.ofInt, h]

/-- A number is read back digit by digit. -/
theorem number?_ofInt (n : Int) {rest : List Char} (hrest : Delimited rest) :
    number? ((Number.ofInt n).render.toList ++ rest) = some (Number.ofInt n, rest) := by
  have hdigits : ∀ c ∈ Nat.toDigits 10 n.natAbs, c.isDigit := fun c hc =>
    Nat.isDigit_of_mem_toDigits (by decide) (by decide) hc
  have hzero : (Nat.toDigits 10 n.natAbs).head? = some '0' →
      (Nat.toDigits 10 n.natAbs).length = 1 := by
    intro hhead
    by_cases hpos : 0 < n.natAbs
    · exact absurd hhead (head?_toDigits hpos)
    · simp [Nat.eq_zero_of_not_pos hpos]
  have hpoint : fraction? rest = some ([], rest) := by
    unfold fraction?
    split
    · rename_i more
      simpa using hrest '.' rfl
    · rfl
  have hpower : exponent? rest = some (none, rest) := by
    cases rest with
    | nil => rfl
    | cons c more => rcases hrest c rfl with rfl | rfl | rfl <;> rfl
  have htake := takeDigits_append hdigits hrest
  rw [toList_render_ofInt, number?.eq_def]
  by_cases hneg : n < 0
  · simpa [hneg, htake, hpoint, hpower, Number.ofInt] using hzero
  · cases hall : Nat.toDigits 10 n.natAbs with
    | nil => exact absurd hall Nat.toDigits_ne_nil
    | cons d others =>
      have hd : d ≠ '-' := by
        rintro rfl
        simpa using hdigits '-' (by simp [hall])
      rw [hall] at htake hzero
      rw [List.cons_append] at htake
      simpa [hneg, hd, htake, hpoint, hpower, Number.ofInt, hall] using hzero

/-! Tokens -/

/-- How a token is written. -/
def Token.text : Token → List Char
  | .openArray => ['[']
  | .closeArray => [']']
  | .openObject => ['\x7b']
  | .closeObject => ['\x7d']
  | .colon => [':']
  | .comma => [',']
  | .scalar value => value.render.toList

mutual

/-- What a document is written with. -/
def tokens : Json → List Token
  | .null => [.scalar .null]
  | .bool b => [.scalar (.bool b)]
  | .number n => [.scalar (.number n)]
  | .text literal => [.scalar (.text literal)]
  | .array [] => [.openArray, .closeArray]
  | .array (item :: rest) => .openArray :: (tokens item ++ itemTokens rest)
  | .object [] => [.openObject, .closeObject]
  | .object ((key, value) :: rest) =>
    .openObject :: .scalar (.text key) :: .colon :: (tokens value ++ memberTokens rest)
  | .buried container => tokens container

/-- The items after the first one, and the end of the list. -/
def itemTokens : List Json → List Token
  | [] => [.closeArray]
  | item :: rest => .comma :: (tokens item ++ itemTokens rest)

/-- The members after the first one, and the end of the record. -/
def memberTokens : List (List Char × Json) → List Token
  | [] => [.closeObject]
  | (key, value) :: rest =>
    .comma :: .scalar (.text key) :: .colon :: (tokens value ++ memberTokens rest)

end

theorem toList_foldl_push (literal : List Char) (out : String) :
    (literal.foldl String.push out).toList = out.toList ++ literal := by
  induction literal generalizing out with
  | nil => simp
  | cons c rest ih => simp [ih]

theorem toList_renderText (literal : List Char) (out : String) :
    (renderText literal out).toList = out.toList ++ '"' :: (literal ++ ['"']) := by
  simp [renderText, toList_foldl_push]

theorem toList_render_text (literal : List Char) :
    (Json.text literal).render.toList = '"' :: (literal ++ ['"']) := by
  simp [render, renderOnto, toList_renderText]

mutual

/-- The text of a document is that of its tokens, one after the other. -/
theorem toList_renderOnto (out : String) (json : Json) :
    (renderOnto out json).toList = out.toList ++ json.tokens.flatMap Token.text := by
  match json with
  | .null | .bool true | .bool false | .number n | .text literal =>
    simp [renderOnto, tokens, Token.text, render, toList_renderText]
  | .array [] => simp [renderOnto, tokens, Token.text]
  | .array (item :: rest) =>
    have hitem := toList_renderOnto (out.push '[') item
    have hrest := toList_renderItems (renderOnto (out.push '[') item) rest
    simp only [renderOnto, String.toList_push, hrest, hitem]
    simp [tokens, Token.text]
  | .object [] => simp [renderOnto, tokens, Token.text]
  | .object ((key, value) :: rest) =>
    have hvalue := toList_renderOnto ((renderText key (out.push '\x7b')).push ':') value
    have hrest := toList_renderMembers
      (renderOnto ((renderText key (out.push '\x7b')).push ':') value) rest
    simp only [renderOnto, String.toList_push, hrest, hvalue, toList_renderText]
    simp [tokens, Token.text, toList_render_text]
  | .buried container => exact toList_renderOnto out container

theorem toList_renderItems (out : String) (items : List Json) :
    (renderItems out items).toList ++ [']'] =
      out.toList ++ (itemTokens items).flatMap Token.text := by
  match items with
  | [] => simp [renderItems, itemTokens, Token.text]
  | item :: rest =>
    have hitem := toList_renderOnto (out.push ',') item
    have hrest := toList_renderItems (renderOnto (out.push ',') item) rest
    simp only [renderItems, hrest, hitem]
    simp [itemTokens, Token.text]

theorem toList_renderMembers (out : String) (members : List (List Char × Json)) :
    (renderMembers out members).toList ++ ['\x7d'] =
      out.toList ++ (memberTokens members).flatMap Token.text := by
  match members with
  | [] => simp [renderMembers, memberTokens, Token.text]
  | (key, value) :: rest =>
    have hvalue := toList_renderOnto ((renderText key (out.push ',')).push ':') value
    have hrest := toList_renderMembers
      (renderOnto ((renderText key (out.push ',')).push ':') value) rest
    simp only [renderMembers, hrest, hvalue, toList_renderText, String.toList_push]
    simp [memberTokens, Token.text, toList_render_text]

end

/-- The text of a document, by its tokens. -/
theorem toList_render (json : Json) :
    json.render.toList = json.tokens.flatMap Token.text := by
  simp [render, toList_renderOnto]

/-! Documents that are written -/

/-- A document of words, texts, lists and records, nested at most `depth` deep. -/
inductive Written : Nat → Json → Prop where
  | bool {depth : Nat} (b : Bool) : Written depth (.bool b)
  | int {depth : Nat} (n : Int) : Written depth (ofInt n)
  | text {depth : Nat} (s : String) : Written depth (ofString s)
  | list {depth : Nat} {items : List Json} (hitems : ∀ item ∈ items, Written depth item) :
    Written (depth + 1) (ofList items)
  | fields {depth : Nat} {fields : List (String × Json)}
    (hfields : ∀ field ∈ fields, Written depth field.2) : Written (depth + 1) (ofFields fields)

theorem Written.mono {depth deeper : Nat} {json : Json} (h : Written depth json)
    (hle : depth ≤ deeper) : Written deeper json := by
  induction h generalizing deeper with
  | bool b => exact .bool b
  | int n => exact .int n
  | text s => exact .text s
  | list _ ih =>
    obtain ⟨rest, rfl⟩ : ∃ rest, deeper = rest + 1 := ⟨deeper - 1, by omega⟩
    exact .list fun item hitem => ih item hitem (by omega)
  | fields _ ih =>
    obtain ⟨rest, rfl⟩ : ∃ rest, deeper = rest + 1 := ⟨deeper - 1, by omega⟩
    exact .fields fun field hfield => ih field hfield (by omega)

/-! Cutting a text into tokens -/

/-- A text is cut into these tokens, whatever comes after it as long as that may come after a
value. -/
structure Scans (text : List Char) (ts : List Token) : Prop where
  length_le : ts.length ≤ text.length
  go_append : ∀ rest, Delimited rest → ∀ fuel seen,
    tokens?.go (ts.length + fuel) (text ++ rest) seen = tokens?.go fuel rest (ts.reverse ++ seen)

theorem go_token {t : Token} {c : Char} {cs rest : List Char} (hc : isBlank c = false)
    (ht : token? (c :: cs) = some (t, rest)) (fuel : Nat) (seen : List Token) :
    tokens?.go (fuel + 1) (c :: cs) seen = tokens?.go fuel rest (t :: seen) := by
  rw [tokens?.go.eq_def]
  simp [hc, ht]

/-- A token by itself, where it matters what comes after it. -/
theorem Scans.single {t : Token} {c : Char} {cs : List Char} (hc : isBlank c = false)
    (ht : ∀ rest, Delimited rest → token? (c :: (cs ++ rest)) = some (t, rest)) :
    Scans (c :: cs) [t] where
  length_le := by simp
  go_append rest hrest fuel seen := by
    rw [List.length_singleton, Nat.add_comm]
    exact go_token hc (ht rest hrest) fuel seen

/-- A token that anything may follow. -/
theorem Scans.cons {t : Token} {c : Char} {cs text : List Char} {ts : List Token}
    (hc : isBlank c = false) (ht : ∀ rest, token? (c :: (cs ++ rest)) = some (t, rest))
    (h : Scans text ts) : Scans (c :: (cs ++ text)) (t :: ts) where
  length_le := by
    have hle := h.length_le
    simp only [List.length_cons, List.length_append]
    omega
  go_append rest hrest fuel seen := by
    have hfuel : (t :: ts).length + fuel = ts.length + fuel + 1 := by
      simp only [List.length_cons]
      omega
    have htoken := ht (text ++ rest)
    rw [hfuel, List.cons_append, List.append_assoc, go_token hc htoken, h.go_append rest hrest]
    simp

theorem Scans.append {text more : List Char} {ts us : List Token} (h : Scans text ts)
    (hmore : Scans more us) (hdelimited : more ≠ [] ∧ Delimited more) :
    Scans (text ++ more) (ts ++ us) where
  length_le := by
    have hle := h.length_le
    have hle' := hmore.length_le
    simp only [List.length_append]
    omega
  go_append rest hrest fuel seen := by
    have hnext : Delimited (more ++ rest) := by
      obtain ⟨c, others, rfl⟩ := List.exists_cons_of_ne_nil hdelimited.1
      exact hdelimited.2
    rw [List.length_append, Nat.add_assoc, List.append_assoc, h.go_append _ hnext,
      hmore.go_append rest hrest, List.reverse_append, List.append_assoc]

theorem Scans.mark {t : Token} {c : Char} {text : List Char} {ts : List Token}
    (hc : isBlank c = false) (ht : ∀ rest, token? (c :: rest) = some (t, rest))
    (h : Scans text ts) : Scans (c :: text) (t :: ts) :=
  @Scans.cons _ _ [] _ _ hc ht h

/-- A key and its colon. -/
theorem Scans.key (key : List Char) {text : List Char} {ts : List Token} (h : Scans text ts) :
    Scans ('"' :: (escape key ++ '"' :: ':' :: text))
      (.scalar (.text (escape key)) :: .colon :: ts) := by
  have hkey (rest : List Char) : token? ('"' :: ((escape key ++ ['"']) ++ rest)) =
      some (.scalar (.text (escape key)), rest) := by
    simp [token?, literal?_escape]
  have hcolon : Scans (':' :: text) (.colon :: ts) := h.mark rfl fun _ => rfl
  simpa using Scans.cons rfl hkey hcolon

theorem delimited_itemTokens (items : List Json) :
    (itemTokens items).flatMap Token.text ≠ [] ∧
      Delimited ((itemTokens items).flatMap Token.text) := by
  cases items <;> simp [itemTokens, Token.text, Delimited]

theorem delimited_memberTokens (members : List (List Char × Json)) :
    (memberTokens members).flatMap Token.text ≠ [] ∧
      Delimited ((memberTokens members).flatMap Token.text) := by
  cases members <;> simp [memberTokens, Token.text, Delimited]

theorem scans_itemTokens {items : List Json}
    (hitems : ∀ item ∈ items, Scans (item.tokens.flatMap Token.text) item.tokens) :
    Scans ((itemTokens items).flatMap Token.text) (itemTokens items) := by
  induction items with
  | nil => exact @Scans.single _ _ [] rfl fun _ _ => rfl
  | cons item rest ih =>
    have hitem := hitems item List.mem_cons_self
    have hrest := ih fun other hother => hitems other (List.mem_cons_of_mem _ hother)
    have hboth := hitem.append hrest (delimited_itemTokens rest)
    simpa [itemTokens, Token.text] using hboth.mark (c := ',') rfl fun _ => rfl

/-- The fields of a record as the members of an object. -/
def memberOf (field : String × Json) : List Char × Json := (escape field.1.toList, field.2)

theorem scans_memberTokens {fields : List (String × Json)}
    (hfields : ∀ field ∈ fields, Scans (field.2.tokens.flatMap Token.text) field.2.tokens) :
    Scans ((memberTokens (fields.map memberOf)).flatMap Token.text)
      (memberTokens (fields.map memberOf)) := by
  induction fields with
  | nil => exact @Scans.single _ _ [] rfl fun _ _ => rfl
  | cons field rest ih =>
    have hfield := hfields field List.mem_cons_self
    have hrest := ih fun other hother => hfields other (List.mem_cons_of_mem _ hother)
    have hboth := hfield.append hrest (delimited_memberTokens (rest.map memberOf))
    simpa [memberTokens, memberOf, Token.text, toList_render_text] using
      (hboth.key field.1.toList).mark (c := ',') rfl fun _ => rfl

theorem ofFields_eq (fields : List (String × Json)) :
    ofFields fields = .object (fields.map memberOf) :=
  rfl

/-- Where a text starts like a number, its first token is one. -/
theorem token?_number {c : Char} (hc : c = '-' ∨ c.isDigit) (cs : List Char) :
    token? (c :: cs) = (number? (c :: cs)).map fun (n, rest) => (.scalar (.number n), rest) := by
  unfold token?
  split <;> simp_all

theorem scans_int (n : Int) :
    Scans (Number.ofInt n).render.toList [.scalar (ofInt n)] := by
  have hread (rest : List Char) (hrest : Delimited rest) := number?_ofInt n hrest
  obtain ⟨c, cs, htext, hc⟩ : ∃ c cs, (Number.ofInt n).render.toList = c :: cs ∧
      (c = '-' ∨ c.isDigit) := by
    rw [toList_render_ofInt]
    by_cases hneg : n < 0
    · exact ⟨'-', Nat.toDigits 10 n.natAbs, by simp [hneg], .inl rfl⟩
    · obtain ⟨d, others, hdigits⟩ :=
        List.exists_cons_of_ne_nil (Nat.toDigits_ne_nil : Nat.toDigits 10 n.natAbs ≠ [])
      refine ⟨d, others, by simp [hneg, hdigits], .inr ?_⟩
      have hmem : d ∈ Nat.toDigits 10 n.natAbs := by simp [hdigits]
      exact Nat.isDigit_of_mem_toDigits (by decide) (by decide) hmem
  rw [htext] at hread ⊢
  have hblank : isBlank c = false := by
    rw [Bool.eq_false_iff]
    intro hblank
    simp only [isBlank, Bool.or_eq_true, decide_eq_true_eq] at hblank
    rcases hblank with ((rfl | rfl) | rfl) | rfl <;> simp at hc
  refine .single hblank fun rest hrest => ?_
  rw [token?_number hc]
  exact congrArg (Option.map _) (hread rest hrest)

/-- The text of what is written is cut into its tokens again. -/
theorem Written.scans {depth : Nat} {json : Json} (h : Written depth json) :
    Scans (json.tokens.flatMap Token.text) json.tokens := by
  induction h with
  | bool b => cases b <;> exact .single rfl fun _ _ => rfl
  | int n => simpa [ofInt, tokens, Token.text, render, renderOnto] using scans_int n
  | text s =>
    have hread (rest : List Char) (_ : Delimited rest) :
        token? ('"' :: ((escape s.toList ++ ['"']) ++ rest)) =
          some (.scalar (.text (escape s.toList)), rest) := by
      simp [token?, literal?_escape]
    simpa [ofString, tokens, Token.text, toList_render_text] using Scans.single rfl hread
  | @list depth items _ ih =>
    cases items with
    | nil =>
      have hclose : Scans [']'] [.closeArray] := @Scans.single _ _ [] rfl fun _ _ => rfl
      exact hclose.mark (c := '[') rfl fun _ => rfl
    | cons item rest =>
      have hrest := scans_itemTokens fun other hother => ih other (List.mem_cons_of_mem _ hother)
      have hboth := (ih item List.mem_cons_self).append hrest (delimited_itemTokens rest)
      simpa [ofList, tokens, Token.text] using hboth.mark (c := '[') rfl fun _ => rfl
  | @fields depth fields _ ih =>
    rw [ofFields_eq]
    cases fields with
    | nil =>
      have hclose : Scans ['\x7d'] [.closeObject] := @Scans.single _ _ [] rfl fun _ _ => rfl
      exact hclose.mark (c := '\x7b') rfl fun _ => rfl
    | cons field rest =>
      have hrest := scans_memberTokens fun other hother => ih other (List.mem_cons_of_mem _ hother)
      have hboth := (ih field List.mem_cons_self).append hrest (delimited_memberTokens _)
      simpa [memberOf, tokens, Token.text, toList_render_text] using
        (hboth.key field.1.toList).mark (c := '\x7b') rfl fun _ => rfl

/-! Putting tokens together -/

namespace Machine

theorem run_cons (m : Machine) (token : Token) (rest : List Token) :
    m.run (token :: rest) = (m.step token).bind fun next => next.run rest := by
  rw [run]
  cases m.step token <;> rfl

theorem bury_eq (container : Json) {around : List Frame} (h : around.length < readableDepth) :
    bury container around = container := by
  have hnil : around.drop (readableDepth - 1) = [] := List.drop_eq_nil_of_le (by omega)
  simp [bury, hnil]

/-- The tokens of a document make the document, where a value is due. -/
def Builds (depth : Nat) (json : Json) : Prop :=
  ∃ first rest, json.tokens = first :: rest ∧ first ≠ .closeArray ∧
    ∀ stack more, stack.length + depth ≤ readableDepth →
      (beginValue first stack).bind (fun m => m.run (rest ++ more)) =
        (complete json stack).bind fun m => m.run more

theorem Builds.run {depth : Nat} {json : Json} (h : Builds depth json) (stack : List Frame)
    (hroom : stack.length + depth ≤ readableDepth) (more : List Token) :
    Machine.run { stack, phase := .value } (json.tokens ++ more) =
      (complete json stack).bind fun m => m.run more := by
  obtain ⟨first, rest, htokens, -, hbuild⟩ := h
  rw [htokens, List.cons_append, run_cons]
  exact hbuild stack more hroom

theorem Builds.run_first {depth : Nat} {json : Json} (h : Builds depth json) (stack : List Frame)
    (hroom : stack.length + depth ≤ readableDepth) (more : List Token) :
    Machine.run { stack, phase := .firstItem } (json.tokens ++ more) =
      (complete json stack).bind fun m => m.run more := by
  obtain ⟨first, rest, htokens, hfirst, hbuild⟩ := h
  have hstep : step { stack, phase := .firstItem } first = beginValue first stack := by
    cases first <;> first | rfl | exact absurd rfl hfirst
  rw [htokens, List.cons_append, run_cons, hstep]
  exact hbuild stack more hroom

/-- The items after those already seen, and the end of their list. -/
theorem run_itemTokens {depth : Nat} {items : List Json}
    (hitems : ∀ item ∈ items, Builds depth item) {stack : List Frame}
    (hroom : stack.length + (depth + 1) ≤ readableDepth) (seen : List Json)
    (more : List Token) :
    run { stack := .array seen :: stack, phase := .separator } (itemTokens items ++ more) =
      (complete (.array (seen.reverse ++ items)) stack).bind fun m => m.run more := by
  induction items generalizing seen with
  | nil =>
    rw [itemTokens, List.singleton_append, run_cons, List.append_nil]
    change (complete (bury (.array seen.reverse) stack) stack).bind _ = _
    rw [bury_eq _ (by omega)]
  | cons item rest ih =>
    have hitem := (hitems item List.mem_cons_self).run (.array seen :: stack)
      (by simp only [List.length_cons]; omega) (itemTokens rest ++ more)
    rw [itemTokens, List.cons_append, run_cons, List.append_assoc]
    refine hitem.trans ?_
    have hrest := ih (fun other hother => hitems other (List.mem_cons_of_mem _ hother))
      (item :: seen)
    simpa [complete] using hrest

/-- The members after those already seen, and the end of their record. -/
theorem run_memberTokens {depth : Nat} {members : List (List Char × Json)}
    (hmembers : ∀ member ∈ members, Builds depth member.2) {stack : List Frame}
    (hroom : stack.length + (depth + 1) ≤ readableDepth) (seen : List (List Char × Json))
    (more : List Token) :
    run { stack := .object seen :: stack, phase := .separator } (memberTokens members ++ more) =
      (complete (.object (seen.reverse ++ members)) stack).bind fun m => m.run more := by
  induction members generalizing seen with
  | nil =>
    rw [memberTokens, List.singleton_append, run_cons, List.append_nil]
    change (complete (bury (.object seen.reverse) stack) stack).bind _ = _
    rw [bury_eq _ (by omega)]
  | cons member rest ih =>
    obtain ⟨key, value⟩ := member
    have hvalue := (hmembers (key, value) List.mem_cons_self).run (.member seen key :: stack)
      (by simp only [List.length_cons]; omega) (memberTokens rest ++ more)
    simp only [memberTokens, List.cons_append, run_cons, List.append_assoc]
    refine hvalue.trans ?_
    have hrest := ih (fun other hother => hmembers other (List.mem_cons_of_mem _ hother))
      ((key, value) :: seen)
    simpa [complete] using hrest

end Machine

theorem Written.builds {depth : Nat} {json : Json} (h : Written depth json) :
    Machine.Builds depth json := by
  induction h with
  | bool | int | text => exact ⟨_, [], rfl, nofun, fun _ _ _ => rfl⟩
  | @list depth items _ ih =>
    cases items with
    | nil =>
      refine ⟨_, _, rfl, nofun, fun stack more hroom => ?_⟩
      change Machine.run { stack := .array [] :: stack, phase := .firstItem }
        (.closeArray :: more) = _
      rw [Machine.run_cons]
      change (Machine.complete (Machine.bury (.array []) stack) stack).bind _ = _
      rw [Machine.bury_eq _ (by omega)]
      rfl
    | cons item rest =>
      refine ⟨_, _, rfl, nofun, fun stack more hroom => ?_⟩
      have hitem := (ih item List.mem_cons_self).run_first (.array [] :: stack)
        (by simp only [List.length_cons]; omega) (itemTokens rest ++ more)
      rw [List.append_assoc]
      refine hitem.trans ?_
      exact Machine.run_itemTokens (fun other hother => ih other (List.mem_cons_of_mem _ hother))
        hroom [item] more
  | @fields depth fields _ ih =>
    rw [ofFields_eq]
    cases fields with
    | nil =>
      refine ⟨_, _, rfl, nofun, fun stack more hroom => ?_⟩
      change Machine.run { stack := .object [] :: stack, phase := .firstKey }
        (.closeObject :: more) = _
      rw [Machine.run_cons]
      change (Machine.complete (Machine.bury (.object []) stack) stack).bind _ = _
      rw [Machine.bury_eq _ (by omega)]
      rfl
    | cons field rest =>
      refine ⟨_, _, rfl, nofun, fun stack more hroom => ?_⟩
      have hfield := (ih field List.mem_cons_self).run
        (.member [] (escape field.1.toList) :: stack)
        (by simp only [List.length_cons]; omega) (memberTokens (rest.map memberOf) ++ more)
      rw [List.cons_append, List.cons_append, List.append_assoc]
      refine hfield.trans ?_
      have hrest : ∀ member ∈ rest.map memberOf, Machine.Builds depth member.2 := by
        intro member hmember
        obtain ⟨other, hother, rfl⟩ := List.mem_map.mp hmember
        exact ih other (List.mem_cons_of_mem _ hother)
      exact Machine.run_memberTokens hrest hroom [memberOf field] more

/-- What is written is read from its text. -/
theorem parse?_render {json : Json} (h : Written Machine.readableDepth json) :
    parse? json.render = some json := by
  have hscans := h.scans
  obtain ⟨extra, hextra⟩ := Nat.exists_eq_add_of_le hscans.length_le
  have hcut : tokens? json.render.toList = some json.tokens := by
    have hgo := hscans.go_append [] (by simp [Delimited]) extra []
    have hend : tokens?.go extra [] (json.tokens.reverse ++ []) = some json.tokens := by
      rw [tokens?.go.eq_def]
      simp
    unfold tokens?
    rw [toList_render, hextra, ← hend, ← hgo, List.append_nil]
  unfold parse?
  rw [hcut]
  have hrun := h.builds.run [] (by simp) []
  rw [List.append_nil] at hrun
  exact hrun

end HomeGateway.Json
