import ExposureBench.Json.Document
import ExposureBench.Proofs.Members
import ExposureBench.Proofs.Numerals

/-!
Text that was written for a value is read as that value: its tokens come back, and lead the reader
to it.
-/

namespace ExposureBench

namespace Json

variable {rest : List Char}

/-! Literals -/

def piece (c : Char) : Piece :=
  if (escapeLetter? c).isNone ∧ c.toNat < 0x20 then .unit c.toNat else .char c

theorem escaped?_of_escapeLetter? {c letter : Char} (named : escapeLetter? c = some letter) :
    escaped? letter = some c ∧ letter ≠ 'u' := by
  unfold escapeLetter? at named
  split at named <;> cases named <;> exact ⟨rfl, by decide⟩

theorem hexDigit?_digitChar {n : Nat} (small : n < 16) : hexDigit? (Nat.digitChar n) = some n := by
  interval_cases n <;> rfl

theorem unit?_control {n : Nat} (control : n < 0x20) :
    unit? '0' '0' (Nat.digitChar (n / 16)) (Nat.digitChar (n % 16)) = some n := by
  have zero : hexDigit? '0' = some 0 := rfl
  have high := hexDigit?_digitChar (n := n / 16) (by omega)
  have low := hexDigit?_digitChar (Nat.mod_lt n (by decide : 0 < 16))
  simp only [unit?, zero, high, low, Option.bind_eq_bind, Option.bind_some, Option.pure_def]
  congr 1
  omega

theorem scanString?_escape (c : Char) {pieces : List Piece} {s : List Char}
    (scanned : scanString? s = some (pieces, rest)) :
    scanString? (escape c ++ s) = some (piece c :: pieces, rest) := by
  unfold escape piece
  rcases named : escapeLetter? c with _ | letter
  · by_cases control : c.toNat < 0x20
    · simp [control, scanString?, unit?_control control, scanned]
    · have plain : c ≠ '"' ∧ c ≠ '\\' := by
        constructor <;> rintro rfl <;> cases named
      simp [control, scanString?, plain, scanned]
  · obtain ⟨meant, other⟩ := escaped?_of_escapeLetter? named
    simp [scanString?, meant, other, scanned]

theorem scanString?_flatMap (s rest : List Char) :
    scanString? (s.flatMap escape ++ '"' :: rest) = some (s.map piece, rest) := by
  induction s with
  | nil => rfl
  | cons c s ih =>
    rw [List.flatMap_cons, List.append_assoc, scanString?_escape c ih, List.map_cons]

theorem assemble?_control {n : Nat} (control : n < 0x20) (pieces : List Piece) :
    assemble? (.unit n :: pieces) = (assemble? pieces).map (Char.ofNat n :: ·) := by
  have high : isHighSurrogate n = false := by
    unfold isHighSurrogate
    exact decide_eq_false (by omega)
  have low : isLowSurrogate n = false := by
    unfold isLowSurrogate
    exact decide_eq_false (by omega)
  rcases pieces with _ | ⟨c | m, pieces⟩ <;> simp [assemble?, high, low]

theorem assemble?_map_piece (s : List Char) : assemble? (s.map piece) = some s := by
  induction s with
  | nil => rfl
  | cons c s ih =>
    rw [List.map_cons, piece]
    split
    · next control => rw [assemble?_control control.2, ih, Option.map_some, Char.ofNat_toNat]
    · rw [assemble?, ih, Option.map_some]

/-! Tokens -/

def Token.Legible : Token → Prop
  | .number n => n.Legible
  | _ => True

/-- Where a token ends: a numeral does not end before what could go on with it. -/
def Token.Ends (rest : List Char) : Token → Prop
  | .number _ => NumeralEnd rest
  | _ => True

theorem render_eq_cons {n : Numeral} (legible : n.Legible) :
    ∃ c chars, (c.isDigit ∨ c = '-') ∧ n.render = c :: chars := by
  obtain ⟨c, chars, digit, begins⟩ := digitChars_eq_cons legible.nonempty legible.whole
  rw [Numeral.render_eq, begins]
  cases n.negative with
  | true => exact ⟨'-', _, .inr rfl, rfl⟩
  | false => exact ⟨c, _, .inl digit, rfl⟩

theorem scanToken?_of_digit {c : Char} (begins : c.isDigit ∨ c = '-') (s : List Char) :
    scanToken? (c :: s) =
      (scanNumeral? (c :: s)).map fun (numeral, rest) => (.number numeral, rest) := by
  unfold scanToken?
  split
  case h_11 => rfl
  all_goals
    next same =>
      cases same
      exact absurd begins (by decide)

theorem scanToken?_render {t : Token} (legible : t.Legible) (ends : t.Ends rest) :
    scanToken? (t.render ++ rest) = some (t, rest) := by
  cases t with
  | bool b => cases b <;> rfl
  | number n =>
    obtain ⟨c, chars, begins, same⟩ := render_eq_cons legible
    have read := scanNumeral?_render legible ends
    rw [Token.render, same, List.cons_append] at *
    rw [scanToken?_of_digit begins, read, Option.map_some]
  | string text =>
    cases text with
    | none => rfl
    | some s =>
      rw [Token.render, quoteText, quote, List.cons_append, List.append_assoc,
        List.singleton_append, scanToken?, scanString?_flatMap, Option.map_some]
      dsimp only
      rw [assemble?_map_piece, Option.map_some, String.ofList_toList]
  | _ => rfl

theorem render_not_blank {t : Token} (legible : t.Legible) :
    ∃ c chars, isBlank c = false ∧ t.render = c :: chars := by
  cases t with
  | bool b => cases b <;> exact ⟨_, _, rfl, rfl⟩
  | number n =>
    obtain ⟨c, chars, begins, same⟩ := render_eq_cons legible
    refine ⟨c, chars, decide_eq_false ?_, same⟩
    rintro (rfl | rfl | rfl | rfl) <;> exact absurd begins (by decide)
  | string text => cases text <;> exact ⟨_, _, rfl, rfl⟩
  | _ => exact ⟨_, _, rfl, rfl⟩

theorem tokens?_cons {c : Char} {s : List Char} {t : Token} (solid : isBlank c = false)
    (scanned : scanToken? (c :: s) = some (t, rest)) :
    tokens? (c :: s) = (tokens? rest).map (t :: ·) := by
  have untrimmed : (c :: s).dropWhile isBlank = c :: s := by
    rw [List.dropWhile_cons, solid]
    rfl
  rw [tokens?]
  split
  · next trimmed =>
    rw [untrimmed] at trimmed
    cases trimmed
  · next c' s' trimmed =>
    rw [untrimmed] at trimmed
    cases trimmed
    split
    · next refused =>
      rw [scanned] at refused
      cases refused
    · next read =>
      rw [scanned] at read
      cases read
      rfl

theorem tokens?_render {t : Token} (legible : t.Legible) (ends : t.Ends rest) :
    tokens? (t.render ++ rest) = (tokens? rest).map (t :: ·) := by
  obtain ⟨c, chars, solid, same⟩ := render_not_blank legible
  have scanned := scanToken?_render legible ends
  rw [same, List.cons_append] at *
  exact tokens?_cons solid scanned

/-! Values -/

mutual

def Legible : Json → Prop
  | .number n => n.Legible
  | .array items => AllLegible items
  | .object members => MembersLegible members
  | .null | .bool _ | .string _ => True

def AllLegible : List Json → Prop
  | [] => True
  | j :: rest => Legible j ∧ AllLegible rest

def MembersLegible : List (Text × Json) → Prop
  | [] => True
  | (_, j) :: rest => Legible j ∧ MembersLegible rest

end

def renderTokens (tokens : List Token) : List Char := tokens.flatMap Token.render

theorem renderTokens_append (first second : List Token) :
    renderTokens (first ++ second) = renderTokens first ++ renderTokens second :=
  List.flatMap_append

theorem renderTokens_cons (t : Token) (later : List Token) :
    renderTokens (t :: later) = t.render ++ renderTokens later :=
  List.flatMap_cons

theorem itemTokens_end (items : List Json) (rest : List Char) :
    NumeralEnd (renderTokens (itemTokens items) ++ rest) := by
  intro c head
  cases items with
  | nil =>
    cases head
    decide
  | cons j items =>
    rw [itemTokens, List.cons_append, renderTokens_cons] at head
    cases head
    decide

theorem memberTokens_end (members : List (Text × Json)) (rest : List Char) :
    NumeralEnd (renderTokens (memberTokens members) ++ rest) := by
  intro c head
  cases members with
  | nil =>
    cases head
    decide
  | cons member members =>
    rw [memberTokens, List.cons_append, renderTokens_cons] at head
    cases head
    decide

/-- Before what is read of the rest, the text of these tokens gives just them. -/
def Yields (rest : List Char) (ts : List Token) : Prop :=
  tokens? (renderTokens ts ++ rest) = (tokens? rest).map (ts ++ ·)

theorem Yields.append {first second : List Token} (early : Yields (renderTokens second ++ rest) first)
    (late : Yields rest second) : Yields rest (first ++ second) := by
  unfold Yields at *
  rw [renderTokens_append, List.append_assoc, early, late, Option.map_map]
  exact congrArg (Option.map · _) (funext fun later => (List.append_assoc first second later).symm)

theorem Yields.cons {t : Token} {later : List Token} (legible : t.Legible)
    (ends : t.Ends (renderTokens later ++ rest)) (yields : Yields rest later) :
    Yields rest (t :: later) := by
  have single : Yields (renderTokens later ++ rest) [t] := by
    rw [Yields, renderTokens_cons, List.append_assoc]
    exact tokens?_render legible ends
  exact single.append yields

theorem Yields.single {t : Token} (legible : t.Legible) (ends : t.Ends rest) : Yields rest [t] :=
  .cons legible ends (Option.map_id' (x := tokens? rest)).symm

mutual

theorem yields_tokens (rest : List Char) (ends : NumeralEnd rest) :
    (j : Json) → (legible : j.Legible) → Yields rest j.tokens
  | .null, _ => .single trivial trivial
  | .bool _, _ => .single trivial trivial
  | .number _, legible => .single legible ends
  | .string _, _ => .single trivial trivial
  | .array [], _ => .cons trivial trivial (.single trivial trivial)
  | .array (j :: items), legible =>
    .cons trivial trivial ((yields_tokens _ (itemTokens_end items rest) j legible.1).append
      (yields_itemTokens rest items legible.2))
  | .object [], _ => .cons trivial trivial (.single trivial trivial)
  | .object ((_, j) :: members), legible =>
    .cons trivial trivial (.cons trivial trivial (.cons trivial trivial
      ((yields_tokens _ (memberTokens_end members rest) j legible.1).append
        (yields_memberTokens rest members legible.2))))

theorem yields_itemTokens (rest : List Char) :
    (items : List Json) → (legible : AllLegible items) → Yields rest (itemTokens items)
  | [], _ => .single trivial trivial
  | j :: items, legible =>
    .cons trivial trivial ((yields_tokens _ (itemTokens_end items rest) j legible.1).append
      (yields_itemTokens rest items legible.2))

theorem yields_memberTokens (rest : List Char) :
    (members : List (Text × Json)) → (legible : MembersLegible members) →
      Yields rest (memberTokens members)
  | [], _ => .single trivial trivial
  | (_, j) :: members, legible =>
    .cons trivial trivial (.cons trivial trivial (.cons trivial trivial
      ((yields_tokens _ (memberTokens_end members rest) j legible.1).append
        (yields_memberTokens rest members legible.2))))

end

/-- The tokens take the reader from one state to another. -/
def Leads (s : State) (ts : List Token) (s' : State) : Prop :=
  ts.foldlM State.step? s = some s'

theorem Leads.append {s s' s'' : State} {first second : List Token} (early : Leads s first s')
    (late : Leads s' second s'') : Leads s (first ++ second) s'' := by
  unfold Leads at *
  rw [List.foldlM_append, early, Option.bind_eq_bind, Option.bind_some, late]

theorem Leads.cons {s s'' : State} {t : Token} {later : List Token} (s' : State)
    (step : State.step? s t = some s') (leads : Leads s' later s'') : Leads s (t :: later) s'' := by
  unfold Leads at *
  rw [List.foldlM_cons, step, Option.bind_eq_bind, Option.bind_some, leads]

theorem Leads.firstItem {j : Json} {stack : List Pending} {s : State}
    (leads : Leads (.value (.array [] :: stack)) j.tokens s) :
    Leads (.firstItem stack) j.tokens s := by
  rcases j with _ | b | n | text | (_ | ⟨j, items⟩) | (_ | ⟨⟨name, j⟩, members⟩) <;> exact leads

mutual

theorem leads_tokens : (j : Json) → (stack : List Pending) →
    Leads (.value stack) j.tokens (.after j stack)
  | .null, _ => rfl
  | .bool _, _ => rfl
  | .number _, _ => rfl
  | .string _, _ => rfl
  | .array [], _ => rfl
  | .array (j :: items), stack =>
    .cons (.firstItem stack) rfl ((leads_tokens j (.array [] :: stack)).firstItem.append
      (leads_itemTokens items j [] stack))
  | .object [], _ => rfl
  | .object ((name, j) :: members), stack =>
    .cons (.firstMember stack) rfl (.cons (.colon [] name stack) rfl
      (.cons (.value (.object [] name :: stack)) rfl
        ((leads_tokens j (.object [] name :: stack)).append
          (leads_memberTokens members name j [] stack))))

theorem leads_itemTokens : (items : List Json) → (j : Json) → (earlier : List Json) →
    (stack : List Pending) → Leads (.after j (.array earlier :: stack)) (itemTokens items)
      (.after (.array (earlier.reverse ++ j :: items)) stack)
  | [], j, earlier, stack => by
    rw [← List.reverse_cons]
    rfl
  | next :: items, j, earlier, stack => by
    have later := leads_itemTokens items next (j :: earlier) stack
    rw [List.reverse_cons, List.append_assoc, List.singleton_append] at later
    exact .cons (.value (.array (j :: earlier) :: stack)) rfl
      ((leads_tokens next (.array (j :: earlier) :: stack)).append later)

theorem leads_memberTokens : (members : List (Text × Json)) → (name : Text) → (j : Json) →
    (earlier : List (Text × Json)) → (stack : List Pending) →
      Leads (.after j (.object earlier name :: stack)) (memberTokens members)
        (.after (.object (earlier.reverse ++ (name, j) :: members)) stack)
  | [], name, j, earlier, stack => by
    rw [← List.reverse_cons]
    rfl
  | (other, next) :: members, name, j, earlier, stack => by
    have later := leads_memberTokens members other next ((name, j) :: earlier) stack
    rw [List.reverse_cons, List.append_assoc, List.singleton_append] at later
    exact .cons (.member ((name, j) :: earlier) stack) rfl
      (.cons (.colon ((name, j) :: earlier) other stack) rfl
        (.cons (.value (.object ((name, j) :: earlier) other :: stack)) rfl
          ((leads_tokens next (.object ((name, j) :: earlier) other :: stack)).append later)))

end

theorem parse?_render {j : Json} (legible : j.Legible) : parse? j.render = some j := by
  have read : tokens? (renderTokens j.tokens) = some j.tokens := by
    have yields := yields_tokens [] (fun c head => by cases head) j legible
    have none_left : tokens? [] = some [] := by rw [tokens?]; rfl
    rwa [Yields, List.append_nil, none_left, Option.map_some, List.append_nil] at yields
  have led : j.tokens.foldlM State.step? (.value []) = some (.after j []) := leads_tokens j []
  rw [parse?, render, String.toList_ofList, ← renderTokens, read, Option.bind_some, ofTokens?, led]

theorem legible_ofNat (n : Nat) : (ofNat n).Legible := Numeral.legible_ofNat n

theorem legible_ofFloat (x : Float) : (ofFloat x).Legible := by
  rcases written : Numeral.ofFloat? x with _ | n
  · rw [ofFloat, written]
    trivial
  · rw [ofFloat, written]
    exact Numeral.legible_of_ofFloat? written

theorem legible_ofRecord {record : List (String × Json)} :
    (ofRecord record).Legible ↔ ∀ member ∈ record, member.2.Legible := by
  rw [ofRecord, Legible]
  induction record with
  | nil => simp [MembersLegible]
  | cons member record ih => rw [List.map_cons, MembersLegible, ih, List.forall_mem_cons]

/-! Documents that are kept -/

/-- What is written for the number is read as that number. It is finite: anything else is written as
`null`. -/
def Rereads (x : Float) : Prop :=
  (ofFloat x).toFloat? = some x

instance (x : Float) : Decidable (Rereads x) :=
  inferInstanceAs (Decidable ((ofFloat x).toFloat? = some x))

/-- Fit to be written and kept: everything in it has a value, no member is named twice, and containers
nest at most `depth` deep. -/
structure Plain (depth : Nat) (j : Json) : Prop where
  legible : j.Legible
  keepable : j.isKeepable depth = true
  unrepeated : j.withoutRepeats = j

theorem document?_render {j : Json} (plain : j.Plain nestingLimit) : document? j.render = some j := by
  rw [document?, parse?_render plain.legible, Option.bind_eq_bind, Option.bind_some,
    if_pos plain.keepable, plain.unrepeated]

section Plain

variable {depth : Nat}

theorem plain_null : null.Plain depth := ⟨trivial, rfl, rfl⟩

theorem plain_ofBool (b : Bool) : (ofBool b).Plain depth := ⟨trivial, rfl, rfl⟩

theorem plain_ofString (s : String) : (ofString s).Plain depth := ⟨trivial, rfl, rfl⟩

theorem plain_ofNat {n : Nat} (fits : n < UInt64.size) : (ofNat n).Plain depth := by
  refine ⟨legible_ofNat n, ?_, rfl⟩
  rw [ofNat, isKeepable, Numeral.value?_ofNat fits, Option.isSome_some]

theorem plain_ofInt {i : Int} (least : Binary64.minInt64 ≤ i) (most : i ≤ Binary64.maxInt64) :
    (ofInt i).Plain depth := by
  refine ⟨Numeral.legible_ofInt i, ?_, rfl⟩
  rw [ofInt, isKeepable, Numeral.value?_ofInt least most, Option.isSome_some]

theorem plain_ofFloat {x : Float} (rereads : Rereads x) : (ofFloat x).Plain depth := by
  have legible := legible_ofFloat x
  rw [Rereads] at rereads
  rcases written : Numeral.ofFloat? x with _ | n
  · rw [ofFloat, written]
    exact plain_null
  · rw [ofFloat, written] at rereads legible ⊢
    obtain ⟨value, found, -⟩ := Option.map_eq_some_iff.mp rereads
    refine ⟨legible, ?_, rfl⟩
    rw [isKeepable, found, Option.isSome_some]

theorem plain_ofOption {α : Type} {write : α → Json} {a? : Option α}
    (inner : ∀ a ∈ a?, (write a).Plain depth) : (ofOption write a?).Plain depth := by
  cases a? with
  | none => exact plain_null
  | some a => exact inner a rfl

theorem plain_array {items : List Json} (all : ∀ j ∈ items, j.Plain depth) :
    (array items).Plain (depth + 1) := by
  -- What is asked of an array is asked of its items by three recursions along the list.
  have parts : AllLegible items ∧ areKeepable depth items = true ∧ allWithoutRepeats items = items := by
    induction items with
    | nil => exact ⟨trivial, rfl, rfl⟩
    | cons j items ih =>
      have first := all j List.mem_cons_self
      obtain ⟨legible, keepable, unrepeated⟩ := ih fun k member => all k (List.mem_cons_of_mem j member)
      refine ⟨⟨first.legible, legible⟩, ?_, ?_⟩
      · rw [areKeepable, first.keepable, keepable, Bool.and_true]
      · rw [allWithoutRepeats, first.unrepeated, unrepeated]
  refine ⟨parts.1, ?_, ?_⟩
  · rw [isKeepable]
    exact parts.2.1
  · rw [withoutRepeats, parts.2.2]

theorem plain_ofList {α : Type} {write : α → Json} {items : List α}
    (all : ∀ a ∈ items, (write a).Plain depth) : (ofList write items).Plain (depth + 1) :=
  plain_array (List.forall_mem_map.mpr all)

theorem lastMembers_of_nodup {members : List (Text × Json)} (distinct : (members.map Prod.fst).Nodup) :
    lastMembers members = members := by
  induction members with
  | nil => rfl
  | cons member members ih =>
    obtain ⟨new, distinct⟩ := List.nodup_cons.mp distinct
    have none_later : members.any (·.1 = member.1) = false := by
      refine List.any_eq_false.mpr fun other inside same => new ?_
      rw [← of_decide_eq_true same]
      exact List.mem_map_of_mem inside
    rw [lastMembers, ih distinct, none_later, if_neg Bool.false_ne_true]

theorem plain_ofRecord {record : List (String × Json)} (fields : List String)
    (names : record.map Prod.fst = fields) (distinct : fields.Nodup)
    (all : ∀ member ∈ record, member.2.Plain depth) : (ofRecord record).Plain (depth + 1) := by
  have parts : membersKeepable depth (spell record) = true ∧
      membersWithoutRepeats (spell record) = spell record := by
    clear names
    induction record with
    | nil => exact ⟨rfl, rfl⟩
    | cons member record ih =>
      have first := all member List.mem_cons_self
      obtain ⟨keepable, unrepeated⟩ := ih fun k inside => all k (List.mem_cons_of_mem member inside)
      constructor
      · rw [spell_cons, membersKeepable, first.keepable, keepable]
        rfl
      · rw [spell_cons, membersWithoutRepeats, first.unrepeated, unrepeated]
  have written : ((spell record).map Prod.fst).Nodup := by
    rw [names_spell, names]
    exact distinct.map (Option.some_injective String)
  have spelled : ofRecord record = .object (spell record) := rfl
  refine ⟨legible_ofRecord.mpr fun member inside => (all member inside).legible, ?_, ?_⟩
  · rw [spelled, isKeepable]
    exact parts.1
  · rw [spelled, withoutRepeats, parts.2, lastMembers_of_nodup written]

end Plain

end Json

end ExposureBench
