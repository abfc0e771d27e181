import Gatehouse.Gate.Factory
import Gatehouse.Proofs.Dispatch.Coverage
import Gatehouse.Proofs.Gate.Grammar
import Gatehouse.Proofs.Gate.Verdicts
import Gatehouse.Proofs.Locale.References
import Gatehouse.Proofs.Locale.Sources

/-!
# `Gatehouse.Proofs.Gate.Requirements` — gates that ask for capabilities

A declaration can ask for capabilities of the caller or the bot (`GateSpec.Asks`). From the names in it to the
decision and to what the caller is told, all that matters is which capabilities are named
(`GateFactory.require_from_text`). If some of them are not there, the caller is told which, in their fixed order
(`Gate.lacking`), provided that the platform tells what the bot may do and the sentence is there in a language that
the caller is answered in (`Context.SpeaksEnglish`). Without these the caller is not told
(`Session.require_without_list`).
-/

namespace Gatehouse

open Text (Spells)

/-! ## From a text to capabilities -/

namespace GateSpec

/-- The text declares a gate that asks for the listed capabilities of the target. They are named in the order of the
    list. -/
def Asks (target : RequireTarget) (cs : List Capability) (s : String) : Prop :=
  cs ≠ [] ∧ ∃ label word names, Spells "require" label ∧ Spells target.name word ∧
    List.Forall₂ (fun name c => Spells (Capability.name c) name) names cs ∧ Declares label (word :: names) s.toList

theorem eq_of_spells {c c' : Capability} {name : String} (h : Spells c.name name) (h' : Spells c'.name name) :
    c = c' := by
  have hfind := c.find?_name
  have hname : c.name = c'.name := h.symm.trans h'
  rw [hname, c'.find?_name] at hfind
  exact (Option.some.inj hfind).symm

variable {target : RequireTarget} {s : String}

/-- **What is read as such a gate** is what is declared as one, and the named capabilities are its set. -/
theorem parse_eq_require_iff {wanted : Capabilities} :
    parse s = .ok (.require target wanted) ↔ ∃ cs, Asks target cs s ∧ Capabilities.ofList cs = wanted := by
  have hnamed {names : List String} {cs : List Capability}
      (h : List.Forall₂ (fun name c => Spells (Capability.name c) name) names cs) (c : Capability) :
      c ∈ cs ↔ ∃ name ∈ names, Spells c.name name :=
    mem_of_forall₂ h (fun _ _ _ h h' => eq_of_spells h h') c
  rw [parse_eq_ok_iff]
  constructor
  · rintro ⟨⟨first, hfirst⟩, label, args, hlabel, htakes, hdeclares⟩
    cases htakes with
    | @require _ _ word names hword hnames hall =>
        have hspelled : ∀ name ∈ names, ∃ c : Capability, Spells c.name name :=
          fun name hname => (hnames name hname).imp fun _ hc => hc.2
        obtain ⟨cs, hcs⟩ := exists_forall₂_iff.mpr hspelled
        have hmem (c : Capability) : c ∈ cs ↔ wanted.contains c = true := by
          rw [hnamed hcs]
          refine ⟨?_, hall c⟩
          rintro ⟨name, hname, hc⟩
          obtain ⟨c', hc', hname'⟩ := hnames name hname
          rwa [eq_of_spells hc hname']
        refine ⟨cs, ⟨List.ne_nil_of_mem ((hmem first).mpr hfirst), label, word, names, hlabel, hword, hcs, hdeclares⟩,
          Capabilities.ext_contains fun c => ?_⟩
        rw [Bool.eq_iff_iff, Capabilities.contains_ofList, hmem]
  · rintro ⟨cs, ⟨hne, label, word, names, hlabel, hword, hcs, hdeclares⟩, rfl⟩
    obtain ⟨first, hfirst⟩ := List.exists_mem_of_ne_nil cs hne
    refine ⟨⟨first, Capabilities.contains_ofList.mpr hfirst⟩, label, word :: names, hlabel, ?_, hdeclares⟩
    refine .require hword (fun name hname => ?_) fun c hc => ?_
    · obtain ⟨c, hc⟩ := exists_forall₂_iff.mp ⟨cs, hcs⟩ name hname
      exact ⟨c, Capabilities.contains_ofList.mpr ((hnamed hcs c).mpr ⟨name, hname, hc⟩), hc⟩
    · exact (hnamed hcs c).mp (Capabilities.contains_ofList.mp hc)

end GateSpec

/-! ## The decision -/

/-- The key of what is told when capabilities of the target are missing. -/
def RequireTarget.key : RequireTarget → String
  | .user => "errors.missingUserCapability"
  | .bot => "errors.missingBotCapability"

namespace Gate

/-- What the target may do in the channel of the message. -/
def held (c : Context) (w : World) : RequireTarget → Capabilities
  | .user => heldByCaller c
  | .bot => w.console.capabilities c.channel

/-- It can be found out what the target may do. The bot has to ask the platform, which may not answer any more. -/
def IsKnown (w : World) (target : RequireTarget) : Prop :=
  target = .bot → w.queriesLeft ≠ some 0

/-- The listed capabilities that are not granted, in the fixed order. -/
def lacking (held : Capabilities) (cs : List Capability) : List Capability :=
  Capability.all.filter fun c => decide (c ∈ cs) && !held.allows c

/-- The names of capabilities, each set off from the text around it. -/
def listing (cs : List Capability) : String :=
  String.intercalate ", " (cs.map fun c => "`" ++ c.name ++ "`")

/-- What a gate answers in a guild that asks for the listed capabilities of the target. -/
structure Settles (target : RequireTarget) (cs : List Capability) (c : Context) (w : World)
    (answer : Except Panic Flow × World) : Prop where
  /-- The call goes on if every one of them is granted, and bot administrators need none themselves. -/
  proceed_iff : IsKnown w target → (answer.1 = .ok .proceed ↔
    (target = .user ∧ c.isBotAdmin = true) ∨ ∀ x ∈ cs, (held c w target).allows x = true)
  silent : answer.1 = .ok .proceed → answer.2.outbox = w.outbox
  /-- Otherwise the caller is told what is lacking. -/
  told : IsKnown w target → answer.1 ≠ .ok .proceed → answer.1 = .ok .halt ∧
    answer.2.outbox = w.outbox.push (c.posting .error (c.text target.key [listing (lacking (held c w target) cs)])
      (some c.services.feedback.error))
  /-- These are the ones that are listed and not granted, in the fixed order and once each. -/
  lists : (lacking (held c w target) cs).Sublist Capability.all ∧ (lacking (held c w target) cs).Nodup ∧
    ∀ x, x ∈ lacking (held c w target) cs ↔ x ∈ cs ∧ (held c w target).allows x = false
  /-- If the platform does not answer, the call ends without a word. -/
  unknown : ¬ IsKnown w target → answer.1 = .ok .halt ∧ answer.2.outbox = w.outbox

variable {c : Context} {w : World} {target : RequireTarget} {cs : List Capability}

theorem mem_lacking {held : Capabilities} {x : Capability} :
    x ∈ lacking held cs ↔ x ∈ cs ∧ held.allows x = false := by
  rw [lacking, List.mem_filter]
  simp [Capability.mem_all]

theorem nodup_lacking (held : Capabilities) (cs : List Capability) : (lacking held cs).Nodup :=
  (show Capability.all.Nodup by decide).filter _

/-- What is missing of the set is what is lacking of the list. -/
theorem capabilityList_missing (held : Capabilities) (cs : List Capability) :
    capabilityList (held.missing (Capabilities.ofList cs)) = listing (lacking held cs) := by
  have hmembers : (held.missing (Capabilities.ofList cs)).toList = lacking held cs := by
    refine List.filter_congr fun x _ => ?_
    rw [Capabilities.contains_missing]
    congr 1
    rw [Bool.eq_iff_iff, Capabilities.contains_ofList, decide_eq_true_iff]
  rw [capabilityList, Capabilities.names, hmembers, List.map_map]
  rfl

/-- If it can be found out what the target may do, the gate decides by that. -/
theorem require_check_known (hguild : c.message.isGuildMessage = true) (hknown : IsKnown w target)
    (wanted : Capabilities) : ∃ w', w'.outbox = w.outbox ∧ (require target wanted).check c w = verdict
      ((target = .user ∧ c.isBotAdmin = true) ∨ ((held c w target).missing wanted).isEmpty = true) c
      (c.text target.key [capabilityList ((held c w target).missing wanted)]) c.services.feedback.error w' := by
  cases target with
  | user =>
      refine ⟨w, rfl, (requireUser_check wanted).trans (verdict_congr ?_ _ _ _ _)⟩
      simp [hguild, held]
  | bot =>
      have hanswer : w.query c.channel
          = (.ok (w.console.capabilities c.channel), { w with queriesLeft := w.queriesLeft.map Nat.pred }) := by
        refine Prod.ext ?_ (w.query_snd c.channel)
        unfold World.query
        split
        · rfl
        · rfl
        · next hnone => exact absurd hnone (hknown rfl)
      refine ⟨{ w with queriesLeft := w.queriesLeft.map Nat.pred }, rfl,
        (requireBot_check_answered wanted hguild hanswer).trans (verdict_congr ?_ _ _ _ _)⟩
      simp [held]

/-- **The decision about a message in a guild** follows from the capabilities that are granted. -/
theorem settles_require (hguild : c.message.isGuildMessage = true) (target : RequireTarget) (cs : List Capability)
    (w : World) : Settles target cs c w ((require target (Capabilities.ofList cs)).check c w) := by
  have hgranted : ((held c w target).missing (Capabilities.ofList cs)).isEmpty = true ↔
      ∀ x ∈ cs, (held c w target).allows x = true := by
    simp only [Capabilities.isEmpty_missing_iff, Capabilities.contains_ofList]
  have hlists : (lacking (held c w target) cs).Sublist Capability.all ∧ (lacking (held c w target) cs).Nodup ∧
      ∀ x, x ∈ lacking (held c w target) cs ↔ x ∈ cs ∧ (held c w target).allows x = false :=
    ⟨List.filter_sublist, nodup_lacking _ cs, fun _ => mem_lacking⟩
  have hne : (.ok .halt : Except Panic Flow) ≠ .ok .proceed := by simp
  by_cases hknown : IsKnown w target
  · obtain ⟨w', houtbox, hcheck⟩ := require_check_known hguild hknown (Capabilities.ofList cs)
    rw [hcheck, verdict]
    split
    · next hpasses =>
        exact ⟨fun _ => ⟨fun _ => hpasses.imp_right hgranted.mp, fun _ => rfl⟩, fun _ => houtbox,
          fun _ h => absurd rfl h, hlists, fun h => absurd hknown h⟩
    · next hfails =>
        refine ⟨fun _ => ⟨fun h => absurd h hne, fun h => absurd (h.imp_right hgranted.mpr) hfails⟩,
          fun h => absurd h hne, fun _ _ => ⟨rfl, ?_⟩, hlists, fun h => absurd hknown h⟩
        rw [capabilityList_missing, ← houtbox]
        rfl
  · have hbot : target = .bot ∧ w.queriesLeft = some 0 := by
      simpa [IsKnown] using hknown
    obtain ⟨rfl, hleft⟩ := hbot
    have hanswer : w.query c.channel = (.error (.unavailable "gateway"), w) := by
      rw [World.query, hleft]
    have hcheck : (require .bot (Capabilities.ofList cs)).check c w = (.ok .halt, w) :=
      requireBot_check_unanswered _ hguild hanswer
    rw [hcheck]
    exact ⟨fun h => absurd h hknown, fun h => absurd h hne, fun h => absurd h hknown, hlists, fun _ => ⟨rfl, rfl⟩⟩

end Gate

/-! ## The sentence -/

/-- What goes before the list of what is missing, in English. -/
def RequireTarget.complaint : RequireTarget → String
  | .user => "You're missing the following permissions to use this command: "
  | .bot => "I'm missing the following permissions to run this command: "

/-- The caller is answered in a built-in language, and that or the default one is English. -/
def Context.SpeaksEnglish (c : Context) : Prop :=
  ∃ default locale, Languages.builtin default = .ok c.services.languages ∧
    c.catalog = c.services.languages.resolve locale ∧ (default = "en_US" ∨ locale = some "en_US")

/-- A sentence that ends in a reference to the only argument. -/
theorem Template.render_lead {front : String} (h : '\x7b' ∉ front.toList) (arg : String) :
    render (front ++ "\x7b0\x7d") [arg] = front ++ arg := by
  have hcut : (Cut.before front.toList ['0'] (.last [])).IsProper [arg].length :=
    ⟨isLiteral_of_not_mem h, ⟨by decide, by simp, (by decide : Numeral.value ['0'] < 1)⟩,
      isLiteral_of_not_mem (by decide)⟩
  have htext : (Cut.before front.toList ['0'] (.last [])).text = (front ++ "\x7b0\x7d").toList := by
    rw [String.toList_append]
    rfl
  rw [render_of_cut hcut htext, Cut.fill, Cut.fill, List.append_nil, String.ofList_append, String.ofList_toList,
    String.ofList_toList]
  rfl

namespace Languages

variable {l : Languages} {code : String}

theorem mem_builtinCatalogs_of_get? {catalog : Catalog} (h : builtinTable.get? code = some catalog) :
    catalog ∈ builtinCatalogs := by
  rcases mem_sources_iff.mp (get?_builtinTable_iff.mp h) with ⟨-, rfl⟩ | ⟨-, rfl⟩
  · exact List.mem_cons_self
  · exact List.mem_cons_of_mem _ List.mem_cons_self

/-- Every language that is chosen from the built-in ones is one of them, and English is found by its code. -/
theorem of_builtin (h : builtin code = .ok l) :
    (∀ locale, l.resolve locale ∈ builtinCatalogs) ∧ (code = "en_US" → l.fallback = Catalog.english) ∧
      l.resolve (some "en_US") = Catalog.english := by
  rw [builtin_eq, ofCatalogs] at h
  split at h
  · next fallback hfallback =>
      cases h
      refine ⟨fun locale => ?_, ?_, rfl⟩
      · unfold resolve
        cases hchosen : locale.bind builtinTable.get? with
        | none => exact mem_builtinCatalogs_of_get? hfallback
        | some catalog =>
            obtain ⟨locale, -, hget⟩ := Option.bind_eq_some_iff.mp hchosen
            exact mem_builtinCatalogs_of_get? hget
      · rintro rfl
        have henglish : some Catalog.english = some fallback := hfallback
        exact (Option.some.inj henglish).symm
  · cases h

end Languages

/-- **The caller is told the list**, if the sentence is there. The Dutch texts do not have it. -/
theorem Context.text_of_speaksEnglish {c : Context} (h : c.SpeaksEnglish) (target : RequireTarget) (arg : String) :
    c.text target.key [arg] = target.complaint ++ arg := by
  have henglish : Catalog.english.get? target.key = some (target.complaint ++ "\x7b0\x7d") := by
    cases target <;> decide +kernel
  have hdutch : Catalog.dutch.get? target.key = none := by
    cases target <;> decide +kernel
  have hrender : Template.render (target.complaint ++ "\x7b0\x7d") [arg] = target.complaint ++ arg :=
    Template.render_lead (by cases target <;> decide) arg
  obtain ⟨default, locale, hbuiltin, hcatalog, hspoken⟩ := h
  obtain ⟨hchosen, hfallback, hcode⟩ := Languages.of_builtin hbuiltin
  have hown : c.catalog ∈ Languages.builtinCatalogs := hcatalog ▸ hchosen locale
  simp only [Languages.builtinCatalogs, List.mem_cons, List.not_mem_nil, or_false] at hown
  unfold text Languages.translate
  rcases hown with hown | hown
  · rw [hown, henglish]
    exact hrender
  · have hdefault : c.services.languages.fallback = Catalog.english := by
      rcases hspoken with hdefault | rfl
      · exact hfallback hdefault
      · -- Dutch is not English.
        rw [hcode, hown] at hcatalog
        have hsame := congrArg Catalog.code hcatalog
        exact absurd hsame (by decide +kernel)
    rw [hown, hdutch, hdefault, henglish]
    exact hrender

/-! ## From the text to what the caller is told -/

/-- **Gates that ask for capabilities.** Every text that is read as such a gate lists capabilities of its target, in
    any order and as often as one likes. The gate is then built, and about any message in a guild it is settled by
    the listed capabilities and by what is granted whether the call goes on and what is lacking. The caller is told
    what is lacking if the sentence is there. Texts that list the same capabilities of the target are built into the
    same gate. -/
theorem GateFactory.require_from_text (f : GateFactory) (command s : String) (target : RequireTarget) :
    (∀ wanted, GateSpec.parse s = .ok (.require target wanted) ↔
      ∃ cs, GateSpec.Asks target cs s ∧ Capabilities.ofList cs = wanted) ∧
    ∀ cs, GateSpec.Asks target cs s →
      (∃ gate, f.build command s = .ok gate ∧ ∀ c w, c.message.isGuildMessage = true →
        Gate.Settles target cs c w (gate.check c w) ∧
        (c.SpeaksEnglish → ∀ lacking : List Capability,
          c.text target.key [Gate.listing lacking] = target.complaint ++ Gate.listing lacking)) ∧
      ∀ cs' s', GateSpec.Asks target cs' s' → (∀ x, x ∈ cs' ↔ x ∈ cs) → f.build command s' = f.build command s := by
  have hbuild {cs : List Capability} {s : String} (h : GateSpec.Asks target cs s) :
      f.build command s = .ok (Gate.require target (Capabilities.ofList cs)) := by
    rw [build, GateSpec.parse_eq_require_iff.mpr ⟨cs, h, rfl⟩]
    rfl
  refine ⟨fun _ => GateSpec.parse_eq_require_iff, fun cs h => ⟨⟨_, hbuild h, fun c w hguild => ⟨?_, ?_⟩⟩, ?_⟩⟩
  · exact Gate.settles_require hguild target cs w
  · exact fun henglish lacking => Context.text_of_speaksEnglish henglish target _
  · intro cs' s' h' hsame
    have hset : Capabilities.ofList cs' = Capabilities.ofList cs :=
      Capabilities.ext_contains fun x => by
        rw [Bool.eq_iff_iff, Capabilities.contains_ofList, Capabilities.contains_ofList, hsame]
    rw [hbuild h, hbuild h', hset]

namespace Session

/-- A message in a guild by somebody who is no member of it, and whom the bot answers in English. -/
def strangersCall : Context :=
  { Context.bare pingCall (.declare "ping" .utility [] "" [] []) with
    catalog := Catalog.english
    services :=
      { (default : Services) with
        languages := ⟨Catalog.english, Languages.builtinTable⟩ } }

/-- A capability that is named twice, and one that comes before it. -/
def askingText : String :=
  " Require: USER, text.add_reactions,, Text.Manage_Messages ,text.add_reactions"

theorem require_from_text_strangersCall : ∃ cs gate w,
    GateSpec.Asks .user cs askingText ∧ (factory (configOf "!")).build "ping" askingText = .ok gate ∧
    strangersCall.message.isGuildMessage = true ∧ strangersCall.SpeaksEnglish ∧
    Gate.Settles .user cs strangersCall w (gate.check strangersCall w) ∧
    (gate.check strangersCall w).1 = .ok .halt ∧
    (gate.check strangersCall w).2.outbox.queue.map (fun p => p.notice.content)
      = ["You're missing the following permissions to use this command: `text.manage_messages`, `text.add_reactions`"] := by
  let wanted : Capabilities := .ofList [.addReactions, .manageMessages]
  let w := World.ofBot ⟨Id.ofNat 100, "bot", true⟩
  obtain ⟨hread, hall⟩ := GateFactory.require_from_text (factory (configOf "!")) "ping" askingText .user
  obtain ⟨cs, hasks, hset⟩ := (hread wanted).mp (by decide +kernel)
  have hguild : strangersCall.message.isGuildMessage = true := rfl
  obtain ⟨⟨gate, hgate, hsettles⟩, -⟩ := hall cs hasks
  have hbuilt : (factory (configOf "!")).build "ping" askingText = .ok (Gate.require .user wanted) := rfl
  obtain rfl := Except.ok.inj (hbuilt.symm.trans hgate)
  have henglish : strangersCall.SpeaksEnglish := ⟨"en_US", none, Languages.builtin_eq "en_US", rfl, .inl rfl⟩
  exact ⟨cs, _, w, hasks, hgate, hguild, henglish, (hsettles _ w hguild).1, by decide +kernel, by decide +kernel⟩

/-- A command that asks for a capability of its caller. -/
def guarded : Descriptor × Builtin.Body :=
  (.declare "ping" .utility [] "" [] ["require:user,text.manage_messages"], Script.body [.say .info "pong" none])

/-- A command that asks for a capability of the bot. -/
def selfGuarded : Descriptor × Builtin.Body :=
  (.declare "ping" .utility [] "" [] ["require:bot,text.send_messages"], Script.body [.say .info "pong" none])

/-- A configuration with Dutch as the default language. -/
def dutchConfig : Config :=
  { configOf "!" with bot := { (configOf "!").bot with locale := "nl_NL" } }

/-- **A gate can halt a call without saying what is lacking.** With Dutch as the default language the queued error is
    the bare key of a sentence that the Dutch texts do not have. And if the platform does not answer any more, the
    bot does not know that it has the capability, and the call ends without a word. -/
theorem require_without_list :
    let s₀ := (startWith dutchConfig ⟨0, ""⟩ (factory dutchConfig) [guarded]).toOption
    let s₁ := (startWith (configOf "!") ⟨0, ""⟩ (factory (configOf "!")) [selfGuarded]).toOption.map fun s =>
      s.changeWorld fun w => { w with queriesLeft := some 1 }
    dutchConfig.isSound = true ∧ pingCall.isGuildMessage = true ∧
    s₀.map (fun s => (s.process pingCall ⟨0, 0⟩).1) = some .rejected ∧
    s₀.map (fun s => (s.process pingCall ⟨0, 0⟩).2.state.world.outbox.queue.map fun p => p.notice.content)
      = some ["errors.missingUserCapability"] ∧
    s₁.map (fun s => (s.state.world.console.capabilities pingCall.channel.id).allows .sendMessages) = some true ∧
    s₁.map (fun s => (s.process pingCall ⟨0, 0⟩).1) = some .rejected ∧
    s₁.map (fun s => (s.process pingCall ⟨0, 0⟩).2.state.world.outbox.queue) = some [] := by
  rw [startWith_eq, startWith_eq]
  decide +kernel

end Session

end Gatehouse
