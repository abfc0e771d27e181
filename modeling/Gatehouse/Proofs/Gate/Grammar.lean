import Gatehouse.Gate.Spec
import Gatehouse.Proofs.Capability.Names
import Gatehouse.Proofs.Text.Fields

/-!
# `Gatehouse.Proofs.Gate.Grammar` — how gates are written

A declaration is the name of a gate, a colon and the arguments between commas (`GateSpec.Declares`). Which arguments
stand for which gate is said without reading them (`GateSpec.Takes`), and so is which gates there are at all
(`GateSpec.IsProper`). What is read as a gate is then exactly what is written for it
(`GateSpec.parse_eq_ok_iff_isWritten`): a declaration is taken apart into its name and its arguments in one way
(`GateSpec.split_of_declares`), and these are read one by one (`GateSpec.takes_of_ofParts`,
`GateSpec.ofParts_of_takes`).
-/

namespace Gatehouse

open Text (IsPadded IsPiece Scattered Spells)

/-! ## Words -/

/-- The words for a level. -/
def Permission.words : Permission → List String
  | .everyone => ["default", "everyone"]
  | .moderator => ["moderator", "mod"]
  | .administrator => ["administrator", "admin"]
  | .botAdmin => ["bot-admin", "botadmin", "bot_admin"]

/-- The word for a target. -/
def RequireTarget.name : RequireTarget → String
  | .user => "user"
  | .bot => "bot"

theorem Permission.parse_eq_ok_iff {s : String} {level : Permission} :
    parse s = .ok level ↔ ∃ word ∈ level.words, Spells word (Text.trimmed s) := by
  unfold parse Spells Text.asciiLowercased Text.trimmed
  rw [String.toList_ofList]
  constructor
  · intro h
    split at h <;> cases h
    all_goals
      next hword => exact ⟨_, by simp [words], hword⟩
  · rintro ⟨word, hword, hs⟩
    rw [hs]
    cases level
    all_goals
      simp only [words, List.mem_cons, List.not_mem_nil, or_false] at hword
      rcases hword with rfl | rfl | rfl
      all_goals rfl

theorem Throttle.Scope.parse_eq_ok_iff {s : String} {scope : Throttle.Scope} :
    Throttle.Scope.parse s = .ok scope ↔ Spells scope.name (Text.trimmed s) := by
  unfold Throttle.Scope.parse Spells Text.asciiLowercased Text.trimmed
  rw [String.toList_ofList]
  constructor
  · intro h
    split at h <;> cases h
    all_goals assumption
  · intro h
    rw [h]
    cases scope <;> rfl

/-- A text that is not trimmed names a capability if it spells its name. -/
theorem Capability.isSpelled_iff {c : Capability} {s : String} (hs : Text.trimmed s = s) :
    c.IsSpelled s ↔ Spells c.name s := by
  constructor
  · rintro ⟨before, core, after, hcs, hbefore, hafter, hcore⟩
    have hsolid : ∀ ch ∈ core, Text.isBlank ch = false := by
      intro ch hch
      rw [← Text.isBlank_toLower]
      exact c.not_isBlank_of_mem_name (hcore ▸ List.mem_map_of_mem hch)
    have htrim : Text.trim s.toList = core :=
      (show IsPadded core s.toList from ⟨before, after, hcs, hbefore, hafter⟩).trim_eq.trans (Text.trim_eq_self hsolid)
    have hcore' : s.toList = core := by
      rw [← htrim, ← String.toList_ofList (l := Text.trim s.toList)]
      exact congrArg String.toList hs.symm
    rw [Spells, Text.asciiLowercased, hcore', Text.asciiLowercase, hcore, String.ofList_toList]
  · intro h
    exact ⟨[], s.toList, [], by simp, List.forall_mem_nil _, List.forall_mem_nil _, h.toList⟩

namespace GateSpec

/-! ## Gates and their declarations -/

/-- The names that do not stand for custom gates. -/
def reserved : List String :=
  ["permission", "require", "throttle", "official-guild", "guild-only"]

/-- The name of a gate. -/
def name : GateSpec → String
  | .permission _ => "permission"
  | .require _ _ => "require"
  | .throttle _ _ _ => "throttle"
  | .officialGuild => "official-guild"
  | .guildOnly => "guild-only"
  | .custom name _ => name

/-- The gates that there are: limits and windows of throttles are positive, some capability is required, and a
    custom gate has a name of its own and arguments that can stand between commas. -/
def IsProper : GateSpec → Prop
  | .permission _ | .officialGuild | .guildOnly => True
  | .require _ capabilities => ∃ c, capabilities.contains c = true
  | .throttle _ limit window => (0 < limit ∧ limit ≤ Numeral.maxWord) ∧ 0 < window ∧ window ≤ Numeral.maxId
  | .custom name args =>
      (IsPiece ':' name ∧ Text.asciiLowercased name = name ∧ name ∉ reserved) ∧ ∀ arg ∈ args, IsPiece ',' arg

/-- The arguments stand for the gate. Words are written in any ASCII case, numbers as numerals, and capabilities in
    any order and as often as one likes. -/
inductive Takes : GateSpec → List String → Prop where
  | permission {level word s} : word ∈ level.words → Spells word s → Takes (.permission level) [s]
  | require {target capabilities s names} : Spells target.name s →
      (∀ name ∈ names, ∃ c, capabilities.contains c = true ∧ Spells c.name name) →
      (∀ c, capabilities.contains c = true → ∃ name ∈ names, Spells c.name name) →
      Takes (.require target capabilities) (s :: names)
  | throttle {scope limit window s limitText windowText} : Spells scope.name s →
      Numeral.IsNumeral limit limitText.toList → Numeral.IsNumeral window windowText.toList →
      Takes (.throttle scope limit window) [s, limitText, windowText]
  | officialGuild : Takes .officialGuild []
  | guildOnly : Takes .guildOnly []
  | custom {name args} : Takes (.custom name args) args

/-- The text is the label, and, after a colon, the arguments between commas, with white space around the whole, the
    label and each argument, and with blank arguments among the others. Without arguments the colon may be left
    out. -/
inductive Declares (label : String) : List String → List Char → Prop where
  | bare {cs} : IsPadded label.toList cs → Declares label [] cs
  | listed {args front pieces cs} : IsPadded label.toList front → Scattered args pieces →
      IsPadded (front ++ ':' :: [','].intercalate pieces) cs → Declares label args cs

/-- The text is written for the gate: its name in any ASCII case and arguments that stand for it. -/
def IsWritten (spec : GateSpec) (s : String) : Prop :=
  ∃ label args, Spells spec.name label ∧ spec.Takes args ∧ Declares label args s.toList

/-! ## A declaration in parts -/

/-- The arguments after a colon, whatever white space ends the text. -/
theorem argumentsOf_trimEnd (cs : List Char) : argumentsOf (Text.trimEnd cs) = argumentsOf cs := by
  unfold argumentsOf
  rw [Text.map_trim_fields_trimEnd (by decide)]

/-- The arguments are found again among blank ones. -/
theorem argumentsOf_intercalate {args : List String} {pieces : List (List Char)} (hargs : ∀ a ∈ args, IsPiece ',' a)
    (h : Scattered args pieces) : argumentsOf ([','].intercalate pieces) = args := by
  cases pieces with
  | nil =>
      cases h
      rfl
  | cons piece pieces =>
      have hpieces := h.sep_not_mem (by decide) fun a ha => (hargs a ha).sep
      rw [argumentsOf, Text.fields_intercalate (List.cons_ne_nil _ _) hpieces]
      exact (Text.scattered_iff hargs).mp h

variable {label : String} {args : List String}

/-- **A declaration is taken apart** into its label, in lowercase, and its arguments. -/
theorem split_of_declares {s : String} (hlabel : IsPiece ':' label) (hargs : ∀ a ∈ args, IsPiece ',' a)
    (h : Declares label args s.toList) : split s = (Text.asciiLowercased label, args) := by
  cases h with
  | bare hpadded =>
      have htrim : Text.trim s.toList = label.toList := hpadded.trim_eq.trans hlabel.trim_toList
      rw [split, htrim, Text.splitAt?_eq_none_iff.mpr hlabel.sep]
      rfl
  | @listed _ front pieces _ hfront hpieces hpadded =>
      have htrim : Text.trim s.toList =
          Text.trimStart front ++ ':' :: Text.trimEnd ([','].intercalate pieces) := by
        rw [hpadded.trim_eq, Text.trim, Text.trimStart_append_cons (by decide),
          Text.trimEnd_append_cons (by decide)]
      have hname : Text.trim (Text.trimStart front) = label.toList := by
        rw [← (Text.isPadded_trimStart front).trim_eq, hfront.trim_eq, hlabel.trim_toList]
      have hcolon : ':' ∉ Text.trimStart front :=
        fun hmem => hfront.not_mem (by decide) hlabel.sep ((List.dropWhile_suffix _).subset hmem)
      rw [split, htrim, Text.splitAt?_eq_some_iff.mpr ⟨rfl, hcolon⟩]
      simp only [hname, argumentsOf_trimEnd, argumentsOf_intercalate hargs hpieces]
      rfl

/-- **Every text is a declaration** of a label and the arguments that it is taken apart into. -/
theorem declares_split (s : String) :
    ∃ label, Declares label (split s).2 s.toList ∧ Text.asciiLowercased label = (split s).1 ∧
      (label ≠ "" → IsPiece ':' label) ∧ ∀ a ∈ (split s).2, IsPiece ',' a := by
  have hpiece {cs : List Char} (hcolon : ':' ∉ cs) (hne : String.ofList (Text.trim cs) ≠ "") :
      IsPiece ':' (String.ofList (Text.trim cs)) :=
    Text.isPiece_trim (fun hnil => hne (String.ofList_eq_empty_iff.mpr hnil)) hcolon
  have hpadded (cs : List Char) : IsPadded (String.ofList (Text.trim cs)).toList cs := by
    rw [String.toList_ofList]
    exact Text.isPadded_trim cs
  cases hsplit : Text.splitAt? ':' (Text.trim s.toList) with
  | none =>
      have hparts : split s = (Text.asciiLowercased (String.ofList (Text.trim s.toList)), []) := by
        rw [split, hsplit, Text.asciiLowercased, String.toList_ofList]
      have hlabel := hpiece (Text.splitAt?_eq_none_iff.mp hsplit)
      rw [Text.trim_trim] at hlabel
      rw [hparts]
      exact ⟨_, .bare (hpadded _), rfl, hlabel, List.forall_mem_nil _⟩
  | some parts =>
      obtain ⟨front, rest⟩ := parts
      obtain ⟨htrim, hcolon⟩ := Text.splitAt?_eq_some_iff.mp hsplit
      have hparts : split s = (Text.asciiLowercased (String.ofList (Text.trim front)), argumentsOf rest) := by
        rw [split, hsplit, Text.asciiLowercased, String.toList_ofList]
      have hargs : ∀ a ∈ argumentsOf rest, IsPiece ',' a := fun a => Text.isPiece_of_mem_solidPieces
      have hwhole : IsPadded (front ++ ':' :: [','].intercalate (Text.fields ',' rest)) s.toList := by
        rw [Text.intercalate_fields, ← htrim]
        exact Text.isPadded_trim s.toList
      rw [hparts]
      exact ⟨_, .listed (hpadded front) ((Text.scattered_iff hargs).mpr rfl) hwhole, rfl, hpiece hcolon, hargs⟩

/-! ## Arguments one by one -/

theorem parseLevel_eq_ok_iff {s : String} {level : Permission} :
    parseLevel s = .ok level ↔ ∃ word ∈ level.words, Spells word (Text.trimmed s) :=
  mapError_eq_ok_iff.trans Permission.parse_eq_ok_iff

theorem parseTarget_eq_ok_iff {s : String} {target : RequireTarget} :
    parseTarget s = .ok target ↔ Spells target.name (Text.trimmed s) := by
  unfold parseTarget Spells Text.asciiLowercased Text.trimmed
  rw [String.toList_ofList]
  constructor
  · intro h
    split at h <;> cases h
    all_goals assumption
  · intro h
    rw [h]
    cases target <;> rfl

theorem parseScope_eq_ok_iff {s : String} {scope : Throttle.Scope} :
    parseScope s = .ok scope ↔ Spells scope.name (Text.trimmed s) :=
  mapError_eq_ok_iff.trans Throttle.Scope.parse_eq_ok_iff

theorem parsePositive_eq_ok_iff {bound n : Nat} {s : String} :
    parsePositive bound s = .ok n ↔ Numeral.IsNumeral n s.toList ∧ 0 < n ∧ n ≤ bound := by
  unfold parsePositive
  constructor
  · intro h
    split at h
    · next hread =>
        cases h
        obtain ⟨hnumeral, hbound⟩ := Numeral.read?_eq_some_iff.mp hread
        exact ⟨hnumeral, Nat.succ_pos _, hbound⟩
    · cases h
  · rintro ⟨hnumeral, hpos, hbound⟩
    obtain ⟨n, rfl⟩ := Nat.exists_eq_add_of_lt hpos
    rw [Numeral.read?_eq_some_iff.mpr ⟨hnumeral, hbound⟩]

/-- Of names without white space around them, each is one of a member, and every member has one. -/
theorem parseCapabilities_eq_ok_iff {names : List String} {capabilities : Capabilities}
    (hnames : ∀ name ∈ names, Text.trimmed name = name) :
    parseCapabilities names = .ok capabilities ↔
      (∀ name ∈ names, ∃ c, capabilities.contains c = true ∧ Spells c.name name) ∧
        ∀ c, capabilities.contains c = true → ∃ name ∈ names, Spells c.name name := by
  rw [parseCapabilities, mapError_eq_ok_iff, Capabilities.ofNames_eq_ok_iff]
  refine and_congr (forall₂_congr fun name hname => ?_) (forall₂_congr fun c _ => ?_)
  · simp only [Capability.isSpelled_iff (hnames name hname)]
  · exact exists_congr fun name => and_congr_right fun hname => Capability.isSpelled_iff (hnames name hname)

/-- What is read from the arguments of each gate. -/
theorem takes_of_permissionOf {spec : GateSpec} (hargs : ∀ a ∈ args, Text.trimmed a = a)
    (h : permissionOf args = .ok spec) : spec.name = "permission" ∧ spec.Takes args ∧ spec.IsProper := by
  unfold permissionOf at h
  split at h
  · cases h
  · next s =>
      obtain ⟨level, hlevel, rfl⟩ := map_eq_ok_iff.mp h
      obtain ⟨word, hword, hs⟩ := parseLevel_eq_ok_iff.mp hlevel
      rw [hargs s List.mem_cons_self] at hs
      exact ⟨rfl, .permission hword hs, trivial⟩
  · cases h

theorem takes_of_requireOf {spec : GateSpec} (hargs : ∀ a ∈ args, Text.trimmed a = a)
    (h : requireOf args = .ok spec) : spec.name = "require" ∧ spec.Takes args ∧ spec.IsProper := by
  unfold requireOf at h
  split at h
  · next s first names =>
      simp only [bind_eq_ok_iff] at h
      obtain ⟨target, htarget, capabilities, hcapabilities, hspec⟩ := h
      cases hspec
      obtain ⟨hs, hnames⟩ := List.forall_mem_cons.mp hargs
      rw [parseTarget_eq_ok_iff, hs] at htarget
      obtain ⟨hnamed, hall⟩ := (parseCapabilities_eq_ok_iff hnames).mp hcapabilities
      obtain ⟨c, hc, -⟩ := hnamed first List.mem_cons_self
      exact ⟨rfl, .require htarget hnamed hall, c, hc⟩
  · cases h

theorem takes_of_throttleOf {spec : GateSpec} (hargs : ∀ a ∈ args, Text.trimmed a = a)
    (h : throttleOf args = .ok spec) : spec.name = "throttle" ∧ spec.Takes args ∧ spec.IsProper := by
  unfold throttleOf at h
  split at h
  · cases h
  · next s limitText windowText =>
      simp only [bind_eq_ok_iff] at h
      obtain ⟨scope, hscope, limit, hlimit, window, hwindow, hspec⟩ := h
      cases hspec
      rw [parseScope_eq_ok_iff, hargs s List.mem_cons_self] at hscope
      obtain ⟨hlimit, hlimits⟩ := parsePositive_eq_ok_iff.mp hlimit
      obtain ⟨hwindow, hwindows⟩ := parsePositive_eq_ok_iff.mp hwindow
      exact ⟨rfl, .throttle hscope hlimit hwindow, hlimits, hwindows⟩
  · cases h

/-- Every other name stands for a custom gate. -/
theorem ofParts_of_not_mem_reserved {name : String} (hne : name ≠ "") (h : name ∉ reserved) (args : List String) :
    ofParts name args = .ok (.custom name args) := by
  unfold ofParts
  split
  · exact absurd rfl hne
  · simp [reserved] at h
  · simp [reserved] at h
  · simp [reserved] at h
  · simp [reserved] at h
  · simp [reserved] at h
  · rfl

/-- **What is read from a name and arguments** is a gate of that name which the arguments stand for. -/
theorem takes_of_ofParts {name : String} {spec : GateSpec}
    (hname : name ≠ "" → IsPiece ':' name ∧ Text.asciiLowercased name = name) (hargs : ∀ a ∈ args, IsPiece ',' a)
    (h : ofParts name args = .ok spec) : spec.name = name ∧ spec.Takes args ∧ spec.IsProper := by
  have htrimmed : ∀ a ∈ args, Text.trimmed a = a := fun a ha => (hargs a ha).trimmed
  unfold ofParts at h
  split at h
  · cases h
  · exact takes_of_permissionOf htrimmed h
  · exact takes_of_requireOf htrimmed h
  · exact takes_of_throttleOf htrimmed h
  · cases args with
    | nil =>
        cases h
        exact ⟨rfl, .officialGuild, trivial⟩
    | cons _ _ => cases h
  · cases args with
    | nil =>
        cases h
        exact ⟨rfl, .guildOnly, trivial⟩
    | cons _ _ => cases h
  · next hempty hpermission hrequire hthrottle hofficial hguild =>
      cases h
      obtain ⟨hpiece, hlower⟩ := hname hempty
      refine ⟨rfl, .custom, ⟨hpiece, hlower, ?_⟩, hargs⟩
      simp only [reserved, List.mem_cons, List.not_mem_nil, or_false, not_or]
      exact ⟨hpermission, hrequire, hthrottle, hofficial, hguild⟩

/-- **Arguments that stand for a gate are read** as the gate. -/
theorem ofParts_of_takes {spec : GateSpec} (hargs : ∀ a ∈ args, IsPiece ',' a) (htakes : spec.Takes args)
    (hproper : spec.IsProper) : ofParts spec.name args = .ok spec := by
  have htrimmed : ∀ a ∈ args, Text.trimmed a = a := fun a ha => (hargs a ha).trimmed
  cases htakes with
  | @permission level word s hword hs =>
      have hlevel : parseLevel s = .ok level := by
        rw [parseLevel_eq_ok_iff, htrimmed s List.mem_cons_self]
        exact ⟨word, hword, hs⟩
      show (parseLevel s).map permission = _
      rw [hlevel]
      rfl
  | @require target capabilities s names hs hnamed hall =>
      obtain ⟨hs', hnames⟩ := List.forall_mem_cons.mp htrimmed
      have htarget : parseTarget s = .ok target := by
        rwa [parseTarget_eq_ok_iff, hs']
      have hcapabilities := (parseCapabilities_eq_ok_iff hnames).mpr ⟨hnamed, hall⟩
      obtain ⟨c, hc⟩ := hproper
      cases names with
      | nil =>
          obtain ⟨_, hnone, -⟩ := hall c hc
          cases hnone
      | cons first names =>
          show requireOf (s :: first :: names) = _
          rw [requireOf, htarget, hcapabilities]
          rfl
  | @throttle scope limit window s limitText windowText hs hlimit hwindow =>
      obtain ⟨hlimits, hwindows⟩ := hproper
      have hscope : parseScope s = .ok scope := by
        rwa [parseScope_eq_ok_iff, htrimmed s List.mem_cons_self]
      show throttleOf [s, limitText, windowText] = _
      rw [throttleOf, hscope, parsePositive_eq_ok_iff.mpr ⟨hlimit, hlimits⟩,
        parsePositive_eq_ok_iff.mpr ⟨hwindow, hwindows⟩]
      rfl
  | officialGuild => rfl
  | guildOnly => rfl
  | custom =>
      obtain ⟨⟨hpiece, -, hreserved⟩, -⟩ := hproper
      exact ofParts_of_not_mem_reserved hpiece.ne_empty hreserved args

/-! ## What can stand between separators -/

theorem isPiece_of_isNumeral {n : Nat} {s : String} (h : Numeral.IsNumeral n s.toList) : IsPiece ',' s := by
  obtain ⟨digits, hs, hne, hdigits, -⟩ := h
  have hdigit : ∀ c ∈ digits, (!Text.isBlank c && c != ',') = true := by
    intro c hc
    have hcomma : c ≠ ',' := by
      rintro rfl
      exact absurd (hdigits _ hc) (by decide)
    rw [Text.not_isBlank_of_isDigit (hdigits c hc), bne_iff_ne.mpr hcomma]
    rfl
  refine Text.isPiece_of_isSolid ?_
  rw [Text.isSolid, Bool.and_eq_true_iff, Bool.not_eq_true', String.isEmpty_eq_false_iff, ne_eq,
    ← String.toList_eq_nil_iff]
  rcases hs with hs | hs
  · rw [hs]
    exact ⟨hne, List.all_eq_true.mpr hdigit⟩
  · rw [hs]
    exact ⟨List.cons_ne_nil _ _, List.all_eq_true.mpr (List.forall_mem_cons.mpr ⟨by decide, hdigit⟩)⟩

/-- A spelling of a word without white space and commas can stand between commas. -/
theorem isPiece_of_spells {word s : String} (hword : Text.isSolid ',' word = true) (h : Spells word s) :
    IsPiece ',' s :=
  h.isPiece (by decide) (Text.isPiece_of_isSolid hword)

theorem isSolid_of_mem_words {level : Permission} {word : String} (h : word ∈ level.words) :
    Text.isSolid ',' word = true := by
  have hall : level.words.all (Text.isSolid ',') = true := by
    cases level <;> decide +kernel
  exact List.all_eq_true.mp hall word h

/-- Arguments of a gate can stand between commas. -/
theorem isPiece_of_takes {spec : GateSpec} (hproper : spec.IsProper) (h : spec.Takes args) :
    ∀ a ∈ args, IsPiece ',' a := by
  cases h with
  | permission hword hs =>
      exact List.forall_mem_singleton.mpr (isPiece_of_spells (isSolid_of_mem_words hword) hs)
  | @require target _ _ names hs hnamed _ =>
      refine List.forall_mem_cons.mpr ⟨isPiece_of_spells (by cases target <;> decide +kernel) hs, fun name hname => ?_⟩
      obtain ⟨c, -, hc⟩ := hnamed name hname
      exact isPiece_of_spells (by cases c <;> decide +kernel) hc
  | @throttle scope _ _ _ _ _ hs hlimit hwindow =>
      have hscope := isPiece_of_spells (by cases scope <;> decide +kernel) hs
      exact List.forall_mem_cons.mpr ⟨hscope, List.forall_mem_cons.mpr
        ⟨isPiece_of_isNumeral hlimit, List.forall_mem_singleton.mpr (isPiece_of_isNumeral hwindow)⟩⟩
  | officialGuild => exact nofun
  | guildOnly => exact nofun
  | custom => exact hproper.2

/-- The name of a gate can stand before a colon, and is its own spelling. -/
theorem isPiece_name {spec : GateSpec} (h : spec.IsProper) : IsPiece ':' spec.name ∧ Spells spec.name spec.name := by
  have hreserved {word : String} (hword : word ∈ reserved) : IsPiece ':' word ∧ Spells word word := by
    have hall : reserved.all (fun word => Text.isSolid ':' word && decide (Spells word word)) = true := by
      decide +kernel
    obtain ⟨hsolid, hspells⟩ := Bool.and_eq_true_iff.mp (List.all_eq_true.mp hall word hword)
    exact ⟨Text.isPiece_of_isSolid hsolid, of_decide_eq_true hspells⟩
  cases spec with
  | custom name args => exact ⟨h.1.1, h.1.2.1⟩
  | permission level => exact hreserved (by simp [reserved, name])
  | require target capabilities => exact hreserved (by simp [reserved, name])
  | throttle scope limit window => exact hreserved (by simp [reserved, name])
  | officialGuild => exact hreserved (by simp [reserved, name])
  | guildOnly => exact hreserved (by simp [reserved, name])

/-! ## Round trip -/

/-- The arguments of a gate without ornament: capabilities stand once each, in their fixed order. -/
def arguments : GateSpec → List String
  | .permission level => [level.name]
  | .require target capabilities => target.name :: capabilities.names
  | .throttle scope limit window => [scope.name, toString limit, toString window]
  | .officialGuild | .guildOnly => []
  | .custom _ args => args

/-- The declaration of a gate without ornament. -/
def text (spec : GateSpec) : String :=
  match spec.arguments with
  | [] => spec.name
  | first :: rest => spec.name ++ ":" ++ String.intercalate "," (first :: rest)

theorem takes_arguments (spec : GateSpec) : spec.Takes spec.arguments := by
  have hnumeral (n : Nat) : Numeral.IsNumeral n (toString n).toList := by
    rw [Nat.toString_eq_repr, Nat.toList_repr]
    exact Numeral.isNumeral_toDigits n
  cases spec with
  | permission level =>
      show Takes (.permission level) [level.name]
      refine .permission (show level.name ∈ level.words from ?_) ?_
      · cases level <;> decide
      · cases level <;> decide +kernel
  | require target capabilities =>
      have hspelling (c : Capability) : Spells c.name c.name := by
        cases c <;> decide +kernel
      have hmem {c : Capability} : c ∈ capabilities.toList ↔ capabilities.contains c = true := Capabilities.mem_toList
      refine .require (by cases target <;> decide +kernel) (fun name hname => ?_) fun c hc => ?_
      · obtain ⟨c, hc, rfl⟩ := List.mem_map.mp hname
        exact ⟨c, hmem.mp hc, hspelling c⟩
      · exact ⟨c.name, List.mem_map_of_mem (hmem.mpr hc), hspelling c⟩
  | throttle scope limit window =>
      exact .throttle (by cases scope <;> decide +kernel) (hnumeral limit) (hnumeral window)
  | officialGuild => exact .officialGuild
  | guildOnly => exact .guildOnly
  | custom name args => exact .custom

/-- Words that stand alone in their pieces are scattered among no blank ones. -/
theorem scattered_toList (words : List String) : Scattered words (words.map String.toList) := by
  induction words with
  | nil => exact .nil
  | cons word words ih => exact .word (.refl _) ih

/-- **Every gate has a declaration.** -/
theorem isWritten_text {spec : GateSpec} (h : spec.IsProper) : spec.IsWritten spec.text := by
  refine ⟨spec.name, spec.arguments, (isPiece_name h).2, spec.takes_arguments, ?_⟩
  unfold text
  cases spec.arguments with
  | nil => exact .bare (.refl _)
  | cons first rest =>
      refine .listed (.refl _) (scattered_toList _) ?_
      have htext : (spec.name ++ ":" ++ String.intercalate "," (first :: rest)).toList =
          spec.name.toList ++ ':' :: [','].intercalate ((first :: rest).map String.toList) := by
        rw [String.toList_append, String.toList_append, String.toList_intercalate, List.append_assoc]
        rfl
      rw [htext]
      exact .refl _

/-- A text that is read as a gate is one that is written for it. -/
theorem parse_eq_ok_iff {spec : GateSpec} {s : String} : parse s = .ok spec ↔ spec.IsProper ∧ spec.IsWritten s := by
  constructor
  · intro h
    obtain ⟨label, hdeclares, hlabel, hpiece, hargs⟩ := declares_split s
    have hname : (split s).1 ≠ "" → IsPiece ':' (split s).1 ∧ Text.asciiLowercased (split s).1 = (split s).1 := by
      rw [← hlabel]
      intro hne
      refine ⟨(hpiece ?_).asciiLowercased, Text.spells_asciiLowercased label⟩
      rintro rfl
      exact hne rfl
    obtain ⟨hspec, htakes, hproper⟩ := takes_of_ofParts hname hargs h
    exact ⟨hproper, label, _, hlabel.trans hspec.symm, htakes, hdeclares⟩
  · rintro ⟨hproper, label, args, hlabel, htakes, hdeclares⟩
    have hargs := isPiece_of_takes hproper htakes
    have hpiece := hlabel.isPiece (by decide) (isPiece_name hproper).1
    rw [parse, split_of_declares hpiece hargs hdeclares, hlabel]
    exact ofParts_of_takes hargs htakes hproper

/-- **What is read as a gate is exactly what is written for it**, and every gate is read from a text. -/
theorem parse_eq_ok_iff_isWritten (spec : GateSpec) (s : String) :
    (parse s = .ok spec ↔ spec.IsProper ∧ spec.IsWritten s) ∧ (spec.IsProper ↔ parse spec.text = .ok spec) :=
  ⟨parse_eq_ok_iff, fun h => parse_eq_ok_iff.mpr ⟨h, isWritten_text h⟩, fun h => (parse_eq_ok_iff.mp h).1⟩

example : parse " Throttle\t:USER,, 007 ,+5," = .ok (.throttle .user 7 5) := by rfl

end GateSpec

end Gatehouse
