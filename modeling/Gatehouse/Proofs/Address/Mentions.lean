import Gatehouse.Dispatch.Address
import Gatehouse.Entity

/-!
# `Gatehouse.Proofs.Address.Mentions` — what counts as a mention

A mention is an opening bracket with an at sign, an exclamation mark or none, the numeral of the user, which may have
a plus sign, and a closing bracket (`Mention.IsMention`). Exactly these texts are read as mentions, each as one of
the user whose number it holds (`Mention.parseChars?_eq_some_iff`); if the number does not have 64 bits, there is no
such user. A message that goes on with white space after a mention addresses the bot that is mentioned and no
other, unless it begins with what introduces commands (`Address.ofContent?_of_mention`).
-/

namespace Gatehouse

theorem User.mention_toList (u : User) :
    u.mention.toList = '<' :: '@' :: (Nat.toDigits 10 u.id.toNat ++ ['>']) := by
  simp [User.mention, Id.text, Nat.toString_eq_repr, Nat.toList_repr]

namespace Mention

/-! ## The grammar -/

/-- The text is a mention of the user with the number `n`. -/
def IsMention (n : Nat) (cs : List Char) : Prop :=
  ∃ mark numeral, (mark = [] ∨ mark = ['!']) ∧ Numeral.IsNumeral n numeral ∧
    cs = '<' :: '@' :: (mark ++ numeral ++ ['>'])

variable {n m : Nat} {cs inner numeral : List Char} {id : UserId}

theorem beforeBracket?_append (cs : List Char) : beforeBracket? (cs ++ ['>']) = some cs := by
  simp [beforeBracket?]

theorem withoutMark_of_isDigit {cs : List Char} (h : ∀ c ∈ cs, c.isDigit = true) : withoutMark cs = cs := by
  unfold withoutMark
  split
  · have hmark := h '!' List.mem_cons_self
    simp at hmark
  · rfl

/-- What stands between the brackets of a mention is a numeral, after an exclamation mark or not. -/
theorem parseChars?_brackets (inner : List Char) :
    parseChars? ('<' :: '@' :: (inner ++ ['>']))
      = (Numeral.read? Numeral.maxId (withoutMark inner)).map Id.ofNat := by
  have hlead : Text.dropLead? ['<', '@'] ('<' :: '@' :: (inner ++ ['>'])) = some (inner ++ ['>']) :=
    Text.dropLead?_eq_some_iff.mpr rfl
  rw [parseChars?, hlead]
  show (beforeBracket? (inner ++ ['>'])).bind _ = _
  rw [beforeBracket?_append, Option.map_eq_bind]
  rfl

theorem beforeBracket?_eq_some_iff : beforeBracket? cs = some inner ↔ cs = inner ++ ['>'] := by
  constructor
  · intro h
    unfold beforeBracket? at h
    split at h
    · next rest hreverse =>
        rw [← Option.some.inj h, ← List.reverse_cons, ← hreverse, List.reverse_reverse]
    · cases h
  · rintro rfl
    exact beforeBracket?_append inner

/-- A numeral does not begin with an exclamation mark. -/
theorem withoutMark_of_isNumeral (h : Numeral.IsNumeral n numeral) : withoutMark numeral = numeral := by
  obtain ⟨digits, rfl | rfl, -, hdigits, -⟩ := h
  · exact withoutMark_of_isDigit hdigits
  · rfl

/-- The mark, if there is one, is all that is taken off a numeral. -/
theorem withoutMark_append {mark : List Char} (hmark : mark = [] ∨ mark = ['!'])
    (h : Numeral.IsNumeral n numeral) : withoutMark (mark ++ numeral) = numeral := by
  rcases hmark with rfl | rfl
  · exact withoutMark_of_isNumeral h
  · rfl

/-- What the mark was taken off is the rest with a mark or without one. -/
theorem exists_eq_append_withoutMark (cs : List Char) :
    ∃ mark, (mark = [] ∨ mark = ['!']) ∧ cs = mark ++ withoutMark cs := by
  unfold withoutMark
  split
  · exact ⟨['!'], .inr rfl, rfl⟩
  · exact ⟨[], .inl rfl, rfl⟩

/-- **Exactly the mentions of a user are read**, as mentions of that user. -/
theorem parseChars?_eq_some_iff : parseChars? cs = some id ↔ IsMention id.toNat cs := by
  constructor
  · intro h
    simp only [parseChars?, Option.bind_eq_bind, Option.bind_eq_some_iff, Option.pure_def, Option.some.injEq] at h
    obtain ⟨rest, hlead, inner, hbracket, n, hread, rfl⟩ := h
    obtain ⟨hnumeral, hbound⟩ := Numeral.read?_eq_some_iff.mp hread
    obtain ⟨mark, hmark, hinner⟩ := exists_eq_append_withoutMark inner
    have hsize : n < UInt64.size := by
      simp only [Numeral.maxId] at hbound
      simp only [UInt64.size]
      omega
    refine ⟨mark, withoutMark inner, hmark, ?_, ?_⟩
    · rwa [Id.toNat_ofNat hsize]
    · rw [Text.dropLead?_eq_some_iff.mp hlead, beforeBracket?_eq_some_iff.mp hbracket, ← hinner]
      rfl
  · rintro ⟨mark, numeral, hmark, hnumeral, rfl⟩
    rw [parseChars?_brackets, withoutMark_append hmark hnumeral,
      Numeral.read?_eq_some_iff.mpr ⟨hnumeral, id.toNat_le⟩, Option.map_some, Id.ofNat_toNat]

theorem parse?_eq_some_iff {s : String} : parse? s = some id ↔ IsMention id.toNat s.toList :=
  parseChars?_eq_some_iff

/-- A text is a mention of one number at most. -/
theorem IsMention.unique (h : IsMention n cs) (h' : IsMention m cs) : n = m := by
  obtain ⟨mark, numeral, hmark, hnumeral, rfl⟩ := h
  obtain ⟨mark', numeral', hmark', hnumeral', heq⟩ := h'
  simp only [List.cons.injEq, List.append_cancel_right_eq, true_and] at heq
  have hsame : numeral = numeral' := by
    rw [← withoutMark_append hmark hnumeral, heq, withoutMark_append hmark' hnumeral']
  exact hnumeral.unique (hsame ▸ hnumeral')

/-- A mention is refused only if its number does not have 64 bits. -/
theorem IsMention.parseChars?_eq_none_iff (h : IsMention n cs) : parseChars? cs = none ↔ UInt64.size ≤ n := by
  rw [← Nat.not_lt, Option.eq_none_iff_forall_ne_some]
  constructor
  · intro hnone hsize
    refine hnone (Id.ofNat n) (parseChars?_eq_some_iff.mpr ?_)
    rwa [Id.toNat_ofNat hsize]
  · intro hsize user hread
    rw [h.unique (parseChars?_eq_some_iff.mp hread)] at hsize
    exact hsize user.val.toNat_lt

/-- There is no white space in a mention. -/
theorem IsMention.not_isBlank (h : IsMention n cs) : ∀ c ∈ cs, Text.isBlank c = false := by
  obtain ⟨mark, numeral, hmark, ⟨digits, hnumeral, -, hdigits, -⟩, rfl⟩ := h
  have hsigns : ['<', '@', '!', '+', '>'].all (fun c => !Text.isBlank c) = true := by decide
  intro c hc
  have hmem : c ∈ digits ∨ c ∈ ['<', '@', '!', '+', '>'] := by
    rcases hmark with rfl | rfl <;> rcases hnumeral with rfl | rfl <;> grind
  rcases hmem with hdigit | hsign
  · exact Text.not_isBlank_of_isDigit (hdigits c hdigit)
  · simpa using List.all_eq_true.mp hsigns c hsign

/-- The mention of a user is one, with an exclamation mark or without. -/
theorem isMention_user (u : User) :
    IsMention u.id.toNat u.mention.toList ∧ IsMention u.id.toNat ("<@!" ++ u.id.text ++ ">").toList := by
  have hnumeral := Numeral.isNumeral_toDigits u.id.toNat
  refine ⟨⟨[], _, .inl rfl, hnumeral, u.mention_toList⟩, ⟨['!'], _, .inr rfl, hnumeral, ?_⟩⟩
  simp [Id.text, Nat.toString_eq_repr, Nat.toList_repr]

end Mention

/-! ## Messages that begin with a mention -/

namespace Address

variable {token text lead : String} {blank : Char} {user : UserId}

/-- **A mention and white space after it address the bot that is mentioned**, and no other, if the message does not
    begin with what introduces commands. -/
theorem ofContent?_of_mention (h : Mention.parse? token = some user) (hblank : Text.isBlank blank = true)
    (hlead : ∀ rest, token ++ String.singleton blank ++ text ≠ lead ++ rest) (bot : UserId) :
    ofContent? (token ++ String.singleton blank ++ text) lead bot
      = if user = bot then some ⟨text, true, token ++ " "⟩ else none := by
  have hmention := Mention.parse?_eq_some_iff.mp h
  have hcontent : (token ++ String.singleton blank ++ text).toList = token.toList ++ blank :: text.toList := by
    simp [String.toList_append]
  have htrim : Text.trimStart (token.toList ++ blank :: text.toList) = token.toList ++ blank :: text.toList := by
    obtain ⟨mark, numeral, -, -, htoken⟩ := hmention
    rw [htoken]
    rfl
  have hdrop : Text.dropLead? lead.toList (token.toList ++ blank :: text.toList) = none := by
    rw [Option.eq_none_iff_forall_ne_some]
    intro rest hrest
    refine hlead (String.ofList rest) (String.toList_inj.mp ?_)
    rw [hcontent, Text.dropLead?_eq_some_iff.mp hrest, String.toList_append, String.toList_ofList]
  have hsplit : Text.splitBlank? (token.toList ++ blank :: text.toList) = some (token.toList, text.toList) :=
    Text.splitBlank?_append hmention.not_isBlank hblank _
  have hread : Mention.parseChars? token.toList = some user := h
  simp only [ofContent?, hcontent, htrim, hdrop, hsplit, Option.getD_some, hread, Option.some.injEq,
    String.ofList_toList]

end Address

/-! ## Exactly the grammar -/

/-- What is promised of a text that may be a mention. -/
structure Mention.Recognized (s : String) : Prop where
  /-- It is read as a mention of a user exactly if it is one. -/
  exact : ∀ user, parse? s = some user ↔ IsMention user.toNat s.toList
  /-- It is a mention of one number at most. -/
  unique : ∀ n m, IsMention n s.toList → IsMention m s.toList → n = m
  /-- A mention is refused only if its number does not have 64 bits. -/
  refused : ∀ n, IsMention n s.toList → (parse? s = none ↔ UInt64.size ≤ n)
  /-- With white space and any text behind it, it addresses the bot that is mentioned and no other, unless what
      introduces commands comes first. -/
  addresses : ∀ user, parse? s = some user → ∀ blank text lead, Text.isBlank blank = true →
    (∀ rest, s ++ String.singleton blank ++ text ≠ lead ++ rest) → ∀ bot,
    Address.ofContent? (s ++ String.singleton blank ++ text) lead bot
      = if user = bot then some ⟨text, true, s ++ " "⟩ else none

/-- **Mentions are read exactly as they are written**: of any text, and of the mention of any user, with an
    exclamation mark or without. -/
theorem Mention.recognized (s : String) (u : User) :
    Recognized s ∧ parse? u.mention = some u.id ∧ parse? ("<@!" ++ u.id.text ++ ">") = some u.id := by
  obtain ⟨hplain, hmarked⟩ := isMention_user u
  refine ⟨?_, parse?_eq_some_iff.mpr hplain, parse?_eq_some_iff.mpr hmarked⟩
  constructor
  case exact => exact fun user => parse?_eq_some_iff
  case unique => exact fun n m h h' => h.unique h'
  case refused => exact fun n h => h.parseChars?_eq_none_iff
  case addresses =>
    intro user huser blank text lead hblank hlead bot
    exact Address.ofContent?_of_mention huser hblank hlead bot

/-- A mention with everything that may stand in one, and the same with a number of 65 bits. -/
theorem Mention.recognized_marked :
    Mention.IsMention 7 "<@!+007>".toList ∧ parse? "<@!+007>" = some (Id.ofNat 7) ∧
    Address.ofContent? "<@!+007>\u3000ping" "!" (Id.ofNat 7) = some ⟨"ping", true, "<@!+007> "⟩ ∧
    Address.ofContent? "<@!+007>\u3000ping" "!" (Id.ofNat 8) = none ∧
    Mention.IsMention (1 <<< 64) "<@18446744073709551616>".toList ∧ parse? "<@18446744073709551616>" = none := by
  have hseven : IsMention 7 "<@!+007>".toList := by
    refine ⟨['!'], ['+', '0', '0', '7'], .inr rfl, ⟨['0', '0', '7'], .inr rfl, by decide, ?_, by decide⟩, by decide⟩
    exact List.all_eq_true.mp (by decide)
  have hlarge : IsMention (1 <<< 64) "<@18446744073709551616>".toList := by
    refine ⟨[], "18446744073709551616".toList, .inl rfl, ⟨_, .inl rfl, by decide, ?_, by decide⟩, by decide⟩
    exact List.all_eq_true.mp (by decide)
  obtain ⟨hrecognized, -, -⟩ := Mention.recognized "<@!+007>" ⟨Id.ofNat 7, "ada", false⟩
  have hread : parse? "<@!+007>" = some (Id.ofNat 7) := (hrecognized.exact (Id.ofNat 7)).mpr hseven
  have haddress := hrecognized.addresses _ hread '\u3000' "ping" "!" (by decide) ?_
  · refine ⟨hseven, hread, haddress (Id.ofNat 7), haddress (Id.ofNat 8), hlarge, ?_⟩
    obtain ⟨hrecognized', -, -⟩ := Mention.recognized "<@18446744073709551616>" ⟨Id.ofNat 7, "ada", false⟩
    exact (hrecognized'.refused _ hlarge).mpr (by decide)
  · intro rest heq
    have hhead := congrArg (fun t : String => t.toList.head?) heq
    simp [String.toList_append] at hhead

end Gatehouse
