import EntityChat.Proofs.TokenListings
import EntityChat.Proofs.TranscriptPrinting

/-!
What is printed as text of a declaration or a chat has a row for each member or remark. Nothing is
escaped in it, and yet each row tells all about its part: for of what was read the names are words,
and a text holds neither a quote nor a line break. Nor does the message of a diagnostic hold a line
break, for a lexeme with one is shown by its name.
-/

namespace EntityChat

theorem newline_not_mem_of_continues {w : List Char} (h : ∀ c ∈ w, wordContinue c = true) :
    '\n' ∉ w := by
  intro hmem
  have hbreak := h _ hmem
  rw [not_wordContinue_of_mem (by simp)] at hbreak
  cases hbreak

theorem IsName.append_inj {v w : String} {cs ds : List Char} (hv : IsName v) (hw : IsName w)
    (hcs : Stops wordContinue cs) (hds : Stops wordContinue ds)
    (h : v.toList ++ cs = w.toList ++ ds) : v = w ∧ cs = ds := by
  obtain ⟨hword, hrest⟩ := hcs.append_inj hds hv.1.continues hw.1.continues h
  exact ⟨String.toList_inj.mp hword, hrest⟩

namespace Member

theorem WellFormed.type_eq {m : Member} (h : m.WellFormed) : m.type = .named m.type.name :=
  congrArg (TypeName.mk m.type.name) h.builtin

theorem stops_suffix (m : Member) : Stops wordContinue m.suffix.toList := by
  rw [suffix_eq]
  split
  · exact stops_cons.mpr (not_wordContinue_of_mem (by simp))
  · exact stops_nil _

theorem newline_not_mem_suffix (m : Member) : '\n' ∉ m.suffix.toList := by
  rw [suffix_eq]
  split
  · decide
  · simp

theorem constraints_eq_of_suffix_eq {m n : Member} (h : m.suffix.toList = n.suffix.toList) :
    m.constraints = n.constraints := by
  rw [suffix_eq, suffix_eq] at h
  cases hm : m.constraints with
  | mk unique =>
    cases hn : n.constraints with
    | mk unique' =>
      rw [hm, hn] at h
      cases unique <;> cases unique' <;> first | rfl | simp at h

end Member

namespace CommandLine

def memberLine (e : Entity) (m : Member) : String := e.name.name ++ "." ++ m.render

def remarkLine (r : Remark) : String := r.speaker.name ++ " has said \"" ++ r.text ++ "\""

theorem memberLines_eq (e : Entity) :
    memberLines e = String.join (e.members.map fun m => memberLine e m ++ "\n") := rfl

theorem remarkLines_eq (t : Transcript) :
    remarkLines t = String.join (t.toList.map fun r => remarkLine r ++ "\n") := by
  have hbreak : "\"\n" = "\"" ++ "\n" := rfl
  rw [remarkLines, hbreak]
  simp only [remarkLine, String.append_assoc]

theorem toList_memberLine (e : Entity) (m : Member) : (memberLine e m).toList =
    e.name.name.toList ++ '.' :: (m.name.name.toList ++ ':' :: ' ' ::
      (m.type.name.toList ++ m.suffix.toList)) := by
  have hdot : ".".toList = ['.'] := rfl
  have hcolon : ": ".toList = [':', ' '] := rfl
  simp only [memberLine, Member.render, String.toList_append, hdot, hcolon, List.append_assoc,
    List.cons_append, List.nil_append]

theorem toList_remarkLine (r : Remark) : (remarkLine r).toList =
    r.speaker.name.toList ++ ' ' :: ("has said \"".toList ++ (r.text.toList ++ ['"'])) := by
  have hverb : " has said \"".toList = ' ' :: "has said \"".toList := rfl
  have hquote : "\"".toList = ['"'] := rfl
  simp only [remarkLine, String.toList_append, hverb, hquote, List.append_assoc, List.cons_append]

section

variable {e d : Entity} {m n : Member}

theorem newline_not_mem_memberLine (he : e.WellFormed) (hm : m.WellFormed) :
    '\n' ∉ (memberLine e m).toList := by
  intro h
  simp only [toList_memberLine, List.mem_append, List.mem_cons] at h
  rcases h with h | h | h | h | h | h | h
  · exact newline_not_mem_of_continues he.name.1.continues h
  · cases h
  · exact newline_not_mem_of_continues hm.name.1.continues h
  · cases h
  · cases h
  · exact newline_not_mem_of_continues hm.typeName.1.continues h
  · exact m.newline_not_mem_suffix h

theorem memberLine_eq_iff (he : e.WellFormed) (hd : d.WellFormed) (hm : m.WellFormed)
    (hn : n.WellFormed) : memberLine e m = memberLine d n ↔
      (e.name.name, m.stated) = (d.name.name, n.stated) := by
  constructor
  · intro h
    have hdot (cs : List Char) : Stops wordContinue ('.' :: cs) :=
      stops_cons.mpr (by decide)
    have hcolon (cs : List Char) : Stops wordContinue (':' :: cs) :=
      stops_cons.mpr (not_wordContinue_of_mem (by simp))
    have htext := congrArg String.toList h
    rw [toList_memberLine, toList_memberLine] at htext
    obtain ⟨hentity, hrest⟩ := he.name.append_inj hd.name (hdot _) (hdot _) htext
    obtain ⟨hmember, hrest⟩ := hm.name.append_inj hn.name (hcolon _) (hcolon _)
      (List.cons.inj hrest).2
    obtain ⟨htype, hsuffix⟩ := hm.typeName.append_inj hn.typeName m.stops_suffix n.stops_suffix
      (List.cons.inj (List.cons.inj hrest).2).2
    have htypes : m.type = n.type := by rw [hm.type_eq, hn.type_eq, htype]
    simp only [Member.stated, hentity, hmember, htypes, Member.constraints_eq_of_suffix_eq hsuffix]
  · intro h
    obtain ⟨hentity, hstated⟩ := Prod.mk.inj h
    rw [memberLine, memberLine, hentity, Member.render_congr (Member.beq_iff_stated.mpr hstated)]

theorem map_stated_eq_iff (he : e.members ≠ []) :
    e.members.map (fun m => (e.name.name, m.stated)) =
      d.members.map (fun n => (d.name.name, n.stated)) ↔ e.stated = d.stated := by
  have hpair (e : Entity) : e.members.map (fun m => (e.name.name, m.stated)) =
      (e.members.map Member.stated).map (Prod.mk e.name.name) := by
    rw [List.map_map]
    rfl
  rw [hpair, hpair, Entity.stated, Entity.stated, Prod.mk.injEq]
  constructor
  · intro h
    have hmembers := congrArg (List.map Prod.snd) h
    simp only [List.map_map, Function.comp_def] at hmembers
    obtain ⟨m, ms, hms⟩ := List.exists_cons_of_ne_nil he
    rw [← hmembers, hms, List.map_cons, List.map_cons, List.map_cons] at h
    exact ⟨(Prod.mk.inj (List.cons.inj h).1).1, hmembers⟩
  · intro h
    rw [h.1, h.2]

end

theorem newline_not_mem_remarkLine {r : Remark} (hr : r.WellFormed) :
    '\n' ∉ (remarkLine r).toList := by
  have hverb : '\n' ∉ "has said \"".toList := by decide
  intro h
  simp only [toList_remarkLine, List.mem_append, List.mem_cons, List.not_mem_nil, or_false] at h
  rcases h with h | h | h | h | h
  · exact newline_not_mem_of_continues hr.speaker.1.continues h
  · cases h
  · exact hverb h
  · exact (hr.text _ h).2 rfl
  · cases h

theorem remarkLine_eq_iff {r q : Remark} (hr : r.WellFormed) (hq : q.WellFormed) :
    remarkLine r = remarkLine q ↔ r.said = q.said := by
  constructor
  · intro h
    have hspace (cs : List Char) : Stops wordContinue (' ' :: cs) :=
      stops_cons.mpr (not_wordContinue_of_mem (by simp))
    have htext := congrArg String.toList h
    rw [toList_remarkLine, toList_remarkLine] at htext
    obtain ⟨hspeaker, hrest⟩ := hr.speaker.append_inj hq.speaker (hspace _) (hspace _) htext
    have htext := List.append_cancel_right (List.append_cancel_left (List.cons.inj hrest).2)
    rw [Remark.said, Remark.said, hspeaker, String.toList_inj.mp htext]
  · intro h
    obtain ⟨hspeaker, htext⟩ := Prod.mk.inj h
    rw [remarkLine, remarkLine, hspeaker, htext]

end CommandLine

theorem Fits.newline_not_mem {k : Kind} {w rest : List Char} (h : Fits k w rest)
    (hk : k ≠ .newline) : '\n' ∉ w := by
  intro hmem
  cases h with
  | @sign _ c _ hc =>
    obtain rfl := List.mem_singleton.mp hmem
    exact hk (Option.some.inj ((Kind.ofPunctuation?_eq_some_iff.mpr hc).symm.trans rfl))
  | word hw _ _ => exact newline_not_mem_of_continues hw.continues hmem
  | quotation hcs => exact (hcs _ hmem).2 rfl
  | stray hblank _ _ _ =>
    obtain rfl := List.mem_singleton.mp hmem
    exact absurd hblank (by decide)
  | unclosed hcs _ =>
    rcases List.mem_cons.mp hmem with hquote | hmem
    · cases hquote
    · exact (hcs _ hmem).2 rfl

namespace Diagnostic

theorem newline_not_mem_description (k : Kind) : '\n' ∉ k.description.toList := by
  cases k <;> decide

theorem newline_not_mem_continued (ks : List Kind) : '\n' ∉ (KindSet.continued ks).toList := by
  have hor : '\n' ∉ " or ".toList := by decide
  have hcomma : '\n' ∉ ", ".toList := by decide
  induction ks using KindSet.continued.induct with
  | case1 => simp [KindSet.continued]
  | case2 k =>
    rw [KindSet.continued, String.toList_append, List.mem_append, not_or]
    exact ⟨hor, newline_not_mem_description k⟩
  | case3 k rest hrest ih =>
    rw [KindSet.continued.eq_3 _ _ hrest, String.toList_append, String.toList_append,
      List.mem_append, List.mem_append, not_or, not_or]
    exact ⟨⟨hcomma, newline_not_mem_description k⟩, ih⟩

theorem newline_not_mem_expected (s : KindSet) : '\n' ∉ s.display.toList := by
  rw [KindSet.display]
  split
  · decide
  · next k rest _ =>
    rw [String.toList_append, List.mem_append, not_or]
    exact ⟨newline_not_mem_description k, newline_not_mem_continued rest⟩

theorem newline_not_mem_found {source : String} {t : Token} (ht : t ∈ tokenize source) :
    '\n' ∉ t.display.toList := by
  have hlexeme (hk : t.kind ≠ .newline) (hend : t.kind ≠ .endOfInput) :
      '\n' ∉ t.lexeme.toList := by
    rcases (cut_tokenize source).fits_of_mem ht with h | ⟨rest, hfits⟩
    · exact absurd h hend
    · exact hfits.newline_not_mem hk
  have hquoted (q : String) (hq : '\n' ∉ q.toList) (h : '\n' ∉ t.lexeme.toList) :
      '\n' ∉ (q ++ t.lexeme ++ q).toList := by
    simp only [String.toList_append, List.mem_append, not_or]
    exact ⟨⟨hq, h⟩, hq⟩
  rw [Token.display]
  split
  · decide
  · decide
  · next hk => exact hquoted _ (by decide) (hlexeme (by simp [hk]) (by simp [hk]))
  · next hend hnewline _ => exact hquoted _ (by decide) (hlexeme hnewline hend)

theorem newline_not_mem_message {source : String} {d : Diagnostic}
    (hd : Entity.read source = .error d ∨ Transcript.read source = .error d) :
    '\n' ∉ d.message.toList := by
  have hfound : d.found ∈ tokenize source := by
    rcases hd with hd | hd
    · exact (Entity.found_of_read hd).2
    · exact (Transcript.rejects_iff.mp hd).found_mem.2
  have hmiddle : '\n' ∉ ": expected ".toList := by decide
  have hback : '\n' ∉ ", found ".toList := by decide
  simp only [message, String.toList_append, List.mem_append, not_or]
  exact ⟨⟨⟨⟨fun h => (d.position.display_plain _ h).2 rfl, hmiddle⟩,
    newline_not_mem_expected d.expected⟩, hback⟩, newline_not_mem_found hfound⟩

end Diagnostic

namespace CommandLine

section

variable {e d : Entity}

theorem rows_memberLines (he : e.WellFormed) :
    Rows (memberLines e) (e.members.map (memberLine e)) :=
  rows_join fun _ hm => newline_not_mem_memberLine he (he.members _ hm)

theorem memberLines_eq_iff (he : e.WellFormed) (hd : d.WellFormed) (hmembers : e.members ≠ []) :
    memberLines e = memberLines d ↔ (e == d) = true := by
  rw [Entity.beq_iff_stated, ← map_stated_eq_iff hmembers, memberLines_eq, memberLines_eq]
  exact join_rows_eq_iff (fun m hm => newline_not_mem_memberLine he (he.members m hm))
    (fun n hn => newline_not_mem_memberLine hd (hd.members n hn))
    fun m hm n hn => memberLine_eq_iff he hd (he.members m hm) (hd.members n hn)

end

section

variable {t u : Transcript}

theorem rows_remarkLines (ht : t.WellFormed) :
    Rows (remarkLines t) (t.toList.map remarkLine) := by
  rw [remarkLines_eq]
  exact rows_join fun x hx => newline_not_mem_remarkLine (ht x hx)

theorem remarkLines_eq_iff (ht : t.WellFormed) (hu : u.WellFormed) :
    remarkLines t = remarkLines u ↔ (t == u) = true := by
  rw [Transcript.beq_iff, remarkLines_eq, remarkLines_eq]
  exact join_rows_eq_iff (fun x hx => newline_not_mem_remarkLine (ht x hx))
    (fun y hy => newline_not_mem_remarkLine (hu y hy))
    fun x hx y hy => remarkLine_eq_iff (ht x hx) (hu y hy)

end

namespace Request

variable {r : Request} {source : String}

theorem output_of_entity {e : Entity} (hcommand : r.command = .entity)
    (hformat : r.settings.format = .text) (h : Entity.read source = .ok e) :
    (r.run (.ok source.toUTF8)).output = memberLines e := by
  refine text_of_read (x := .entity e) hformat (by simp [hcommand]) ?_
  rw [hcommand, Command.read, h]
  rfl

theorem output_of_chat {t : Transcript} (hcommand : r.command = .chat)
    (hformat : r.settings.format = .text) (h : Transcript.read source = .ok t) :
    (r.run (.ok source.toUTF8)).output = remarkLines t := by
  refine text_of_read (x := .transcript t) hformat (by simp [hcommand]) ?_
  rw [hcommand, Command.read, h]
  rfl

/-- What is printed of a declaration or a chat has a row for each member or remark, in order, and
the row tells all about it; so the same is printed just if the two are equal. And the message for
what is neither is on one row. -/
theorem run_prints_records :
    (∀ (r q : Request) (source other : String) (e d : Entity),
      r.command = .entity → r.settings.format = .text → Entity.read source = .ok e →
      q.command = .entity → q.settings.format = .text → Entity.read other = .ok d →
      Rows (r.run (.ok source.toUTF8)).output (e.members.map (memberLine e)) ∧
      (∀ m ∈ e.members, ∀ n ∈ d.members, memberLine e m = memberLine d n ↔
        e.name.name = d.name.name ∧
          m.name.name = n.name.name ∧ m.type = n.type ∧ m.constraints = n.constraints) ∧
      (e.members ≠ [] →
        ((r.run (.ok source.toUTF8)).output = (q.run (.ok other.toUTF8)).output ↔
          (e == d) = true))) ∧
    (∀ (r q : Request) (source other : String) (t u : Transcript),
      r.command = .chat → r.settings.format = .text → Transcript.read source = .ok t →
      q.command = .chat → q.settings.format = .text → Transcript.read other = .ok u →
      Rows (r.run (.ok source.toUTF8)).output (t.toList.map remarkLine) ∧
      (∀ x ∈ t.toList, ∀ y ∈ u.toList, remarkLine x = remarkLine y ↔
        x.speaker.name = y.speaker.name ∧ x.text = y.text) ∧
      ((r.run (.ok source.toUTF8)).output = (q.run (.ok other.toUTF8)).output ↔
        (t == u) = true)) ∧
    ∀ (source : String) (d : Diagnostic),
      Entity.read source = .error d ∨ Transcript.read source = .error d →
        '\n' ∉ d.message.toList := by
  refine ⟨fun r q source other e d hr hr' he hq hq' hd => ?_,
    fun r q source other t u hr hr' ht hq hq' hu => ?_,
    fun source d hd => Diagnostic.newline_not_mem_message hd⟩
  · rw [output_of_entity hr hr' he, output_of_entity hq hq' hd]
    have he := (Entity.sentence_of_read he).wellFormed
    have hd := (Entity.sentence_of_read hd).wellFormed
    refine ⟨rows_memberLines he, fun m hm n hn => ?_, memberLines_eq_iff he hd⟩
    rw [memberLine_eq_iff he hd (he.members m hm) (hd.members n hn)]
    simp only [Member.stated, Prod.mk.injEq]
  · rw [output_of_chat hr hr' ht, output_of_chat hq hq' hu]
    have ht := Transcript.wellFormed_of_read ht
    have hu := Transcript.wellFormed_of_read hu
    refine ⟨rows_remarkLines ht, fun x hx y hy => ?_, remarkLines_eq_iff ht hu⟩
    rw [remarkLine_eq_iff (ht x hx) (hu y hy), Remark.said, Remark.said, Prod.mk.injEq]

theorem run_prints_records_alike :
    let entity : Request := ⟨.entity, "-", ⟨.text, false, 0⟩⟩
    let chat : Request := ⟨.chat, "-", ⟨.text, true, 2⟩⟩
    (entity.run (.ok "create entity é \x7b b: Int \x7d".toUTF8)).output =
      (entity.run (.ok "CREATE entity é\n\x7bb:Int,\x7d".toUTF8)).output ∧
    (chat.run (.ok "é says \"a has said b\"".toUTF8)).output ≠ (chat.run (.ok "".toUTF8)).output ∧
    ∃ d, Transcript.read "é says\n" = .error d ∧ '\n' ∉ d.message.toList := by
  intro entity chat
  let e : Entity :=
    ⟨⟨"é", ⟨14, 1, 15⟩⟩, [⟨⟨"b", ⟨19, 1, 19⟩⟩, .named "Int", ⟨false⟩⟩]⟩
  let e' : Entity :=
    ⟨⟨"é", ⟨14, 1, 15⟩⟩, [⟨⟨"b", ⟨18, 2, 2⟩⟩, .named "Int", ⟨false⟩⟩]⟩
  let t : Transcript := .remark ⟨⟨"é", .start⟩, "a has said b"⟩ .empty
  let d : Diagnostic := .unexpected ⟨.newline, "\n", ⟨7, 1, 7⟩⟩ [.quotation]
  have he : Entity.read "create entity é \x7b b: Int \x7d" = .ok e := by decide +kernel
  have he' : Entity.read "CREATE entity é\n\x7bb:Int,\x7d" = .ok e' := by decide +kernel
  have ht : Transcript.read "é says \"a has said b\"" = .ok t := by decide +kernel
  have hempty : Transcript.read "" = .ok .empty := by decide +kernel
  have hd : Transcript.read "é says\n" = .error d := by decide +kernel
  obtain ⟨hentity, hchat, hmessage⟩ := run_prints_records
  obtain ⟨-, -, hsame⟩ := hentity entity entity _ _ e e' rfl rfl he rfl rfl he'
  obtain ⟨-, -, hother⟩ := hchat chat chat _ _ t .empty rfl rfl ht rfl rfl hempty
  refine ⟨(hsame (by simp [e])).mpr (by decide +kernel), fun h => ?_, d, hd, hmessage _ d (.inr hd)⟩
  exact absurd (hother.mp h) (by decide +kernel)

end Request

end CommandLine

end EntityChat
