import ElmOnSave.Proofs.LineFaults

/-!
# A stream read as one text

A stream is decoded line by line while it arrives.  The plain way to say what is on it is another
one: take all octets, decode them as one text, and cut the text at its line feeds.  `textLines` is
this reading, and `ReadsAsText` says what has to be gathered according to it.

That both agree rests on two facts about the decoder, whatever the octets are.  A line feed stands
for itself even inside a character begun, as every ASCII octet does (`decodeLossy_append_ascii`),
since no octet that continues a character is one; and nothing but its octet is read as a line feed
(`ne_lineFeed_of_mem_decodeLossy`), since what is begun can only be completed beyond ASCII.  So
decoding commutes with cutting (`splitAll_decodeLossy`), and the lines of the text are the texts of
the lines (`textLines_eq`).
-/

namespace ElmOnSave

namespace Utf8

/-! ## Characters begun -/

/-- A character begun that only octets beyond ASCII continue, and only to a character beyond
ASCII. -/
structure Begun.BeyondAscii (g : Begun) : Prop where
  low : 0x80 ≤ g.low.toNat
  bits : 0x80 ≤ (g.bits * 64 + (g.low.toNat - 0x80)) * 64 ^ g.further

/-- Whatever is begun in a state is completed beyond ASCII. -/
def State.BeyondAscii (s : State) : Prop := ∀ g ∈ s.begun, g.BeyondAscii

lemma beyondAscii_of_lead {b : UInt8} {g : Begun} (h : lead b = .inr g) : g.BeyondAscii := by
  unfold lead at h
  simp only at h
  split_ifs at h <;> cases h <;> constructor <;> simp <;> omega

lemma ofNat_ne_lineFeed {n : Nat} (h : n ≠ 10) : Char.ofNat n ≠ '\n' := by
  unfold Char.ofNat
  split
  · rename_i hvalid
    intro heq
    have hnat : (Char.ofNatAux n hvalid).toNat = 10 := congrArg Char.toNat heq
    exact h hnat
  · decide

lemma replacement_ne_lineFeed : Char.ofNat 0xFFFD ≠ '\n' := by decide

lemma ne_lineFeed_of_lead {b : UInt8} {p : Piece} (hb : b ≠ 10) (h : lead b = .inl p) :
    p.shown ≠ '\n' := by
  have hn : b.toNat ≠ 10 := fun heq => hb (UInt8.toNat_inj.1 heq)
  unfold lead at h
  simp only at h
  split_ifs at h <;> cases h
  · exact ofNat_ne_lineFeed hn
  · exact replacement_ne_lineFeed
  · exact replacement_ne_lineFeed

lemma State.beyondAscii_restart (ps : List Piece) (b : UInt8) : (restart ps b).BeyondAscii := by
  unfold restart
  split
  · rintro g ⟨⟩
  · rename_i hlead
    rintro g ⟨⟩
    exact beyondAscii_of_lead hlead

lemma State.mem_pieces_restart {ps : List Piece} {b : UInt8} {p : Piece} (hb : b ≠ 10)
    (h : p ∈ (restart ps b).pieces) : p ∈ ps ∨ p.shown ≠ '\n' := by
  unfold restart at h
  split at h
  · rename_i hlead
    rcases List.mem_cons.1 h with rfl | h
    · exact .inr (ne_lineFeed_of_lead hb hlead)
    · exact .inl h
  · exact .inl h

/-- One octet more of a character begun. -/
lemma Begun.BeyondAscii.next {g : Begun} (h : g.BeyondAscii) {b : UInt8} (hb : g.low ≤ b) :
    0x80 ≤ (g.bits * 64 + (b.toNat - 0x80)) * 64 ^ g.further := by
  have hlow : g.low.toNat ≤ b.toNat := hb
  calc 0x80 ≤ (g.bits * 64 + (g.low.toNat - 0x80)) * 64 ^ g.further := h.bits
    _ ≤ (g.bits * 64 + (b.toNat - 0x80)) * 64 ^ g.further :=
      Nat.mul_le_mul_right _ (by omega)

lemma State.BeyondAscii.feed {s : State} (h : s.BeyondAscii) (b : UInt8) :
    (s.feed b).BeyondAscii := by
  unfold State.feed
  split
  · exact beyondAscii_restart _ _
  · rename_i g hg
    split
    · rename_i hb
      have hnext := (h g hg).next hb.1
      split
      · rintro g' ⟨⟩
      · rename_i k hk
        rw [hk] at hnext
        rintro g' ⟨⟩
        refine ⟨Nat.le_refl 0x80, ?_⟩
        simpa [pow_succ', ← mul_assoc] using hnext
    · exact beyondAscii_restart _ _

lemma State.BeyondAscii.foldl {s : State} (h : s.BeyondAscii) (octets : Octets) :
    (octets.foldl State.feed s).BeyondAscii := by
  induction octets generalizing s with
  | nil => exact h
  | cons b octets ih => exact ih (h.feed b)

lemma beyondAscii_initial : State.initial.BeyondAscii := by
  rintro g ⟨⟩

/-! ## Line feeds -/

/-- An octet that is no line feed adds none. -/
lemma State.BeyondAscii.mem_pieces_feed {s : State} (h : s.BeyondAscii) {b : UInt8} (hb : b ≠ 10)
    {p : Piece} (hp : p ∈ (s.feed b).pieces) : p ∈ s.pieces ∨ p.shown ≠ '\n' := by
  unfold State.feed at hp
  split at hp
  · exact mem_pieces_restart hb hp
  · rename_i g hg
    split at hp
    · rename_i hlow
      have hnext := (h g hg).next hlow.1
      split at hp
      · rename_i hk
        rw [hk, pow_zero, mul_one] at hnext
        rcases List.mem_cons.1 hp with rfl | hp
        · exact .inr (ofNat_ne_lineFeed (by omega))
        · exact .inl hp
      · exact .inl hp
    · rcases mem_pieces_restart hb hp with hp | hp
      · rcases List.mem_cons.1 hp with rfl | hp
        · exact .inr replacement_ne_lineFeed
        · exact .inl hp
      · exact .inr hp

lemma State.BeyondAscii.mem_pieces_foldl {s : State} (h : s.BeyondAscii) {octets : Octets}
    (ho : ∀ b ∈ octets, b ≠ 10) {p : Piece} (hp : p ∈ (octets.foldl State.feed s).pieces) :
    p ∈ s.pieces ∨ p.shown ≠ '\n' := by
  induction octets generalizing s with
  | nil => exact .inl hp
  | cons b octets ih =>
    rcases ih (h.feed b) (fun c hc => ho c (List.mem_cons_of_mem b hc)) hp with hp | hp
    · exact h.mem_pieces_feed (ho b (List.mem_cons_self ..)) hp
    · exact .inr hp

/-- Only its octet is read as a line feed. -/
lemma ne_lineFeed_of_mem_decodeLossy {octets : Octets} (ho : ∀ b ∈ octets, b ≠ 10) {c : Char}
    (hc : c ∈ decodeLossy octets) : c ≠ '\n' := by
  have hread : ∀ p ∈ (octets.foldl State.feed .initial).pieces, p.shown ≠ '\n' := fun p hp =>
    (beyondAscii_initial.mem_pieces_foldl ho hp).resolve_left (by simp [State.initial])
  obtain ⟨p, hp, rfl⟩ := List.mem_map.1 hc
  rw [pieces, State.finish] at hp
  split at hp
  · exact hread p (List.mem_reverse.1 hp)
  · rcases List.mem_cons.1 (List.mem_reverse.1 hp) with rfl | hp
    · exact replacement_ne_lineFeed
    · exact hread p hp

/-- An ASCII octet ends what was begun and stands for itself. -/
lemma State.BeyondAscii.feed_ascii {s : State} (h : s.BeyondAscii) {b : UInt8}
    (hb : b.toNat < 0x80) :
    ∃ ps, s.feed b = ⟨ps, none⟩ ∧
      ps.reverse.map Piece.shown = s.finish.map Piece.shown ++ [Char.ofNat b.toNat] := by
  have hlead : lead b = .inl (.char (Char.ofNat b.toNat) 1) := if_pos hb
  unfold State.feed State.finish
  cases hg : s.begun with
  | none =>
    refine ⟨.char (Char.ofNat b.toNat) 1 :: s.pieces, ?_, by simp [Piece.shown]⟩
    simp only [restart, hlead]
  | some g =>
    have hout : ¬(g.low ≤ b ∧ b ≤ g.high) := by
      rintro ⟨hle, -⟩
      have hle : g.low.toNat ≤ b.toNat := hle
      have hlow := (h g hg).low
      omega
    refine ⟨.char (Char.ofNat b.toNat) 1 ::
      .broken g.octets.reverse .invalidContinuation :: s.pieces, ?_, by simp [Piece.shown]⟩
    simp only [if_neg hout, restart, hlead]

/-- What was read before stays below what is read. -/
lemma State.feed_append (qs ps : List Piece) (g : Option Begun) (b : UInt8) :
    State.feed ⟨qs ++ ps, g⟩ b =
      ⟨(State.feed ⟨qs, g⟩ b).pieces ++ ps, (State.feed ⟨qs, g⟩ b).begun⟩ := by
  have hrestart : ∀ qs : List Piece, restart (qs ++ ps) b =
      ⟨(restart qs b).pieces ++ ps, (restart qs b).begun⟩ := by
    intro qs
    unfold restart
    split <;> rfl
  cases g with
  | none => exact hrestart qs
  | some g =>
    simp only [State.feed]
    split
    · split <;> rfl
    · exact hrestart (_ :: qs)

lemma State.foldl_append (qs ps : List Piece) (g : Option Begun) (octets : Octets) :
    octets.foldl State.feed ⟨qs ++ ps, g⟩ =
      ⟨(octets.foldl State.feed ⟨qs, g⟩).pieces ++ ps,
        (octets.foldl State.feed ⟨qs, g⟩).begun⟩ := by
  induction octets generalizing qs g with
  | nil => rfl
  | cons b octets ih => rw [List.foldl_cons, feed_append, ih, List.foldl_cons]

lemma State.finish_append (qs ps : List Piece) (g : Option Begun) :
    State.finish ⟨qs ++ ps, g⟩ = ps.reverse ++ State.finish ⟨qs, g⟩ := by
  cases g <;> simp [State.finish]

/-- An ASCII octet among octets is a character among the characters, and what stands before and
behind it is decoded by itself. -/
theorem decodeLossy_append_ascii (before after : Octets) {b : UInt8} (hb : b.toNat < 0x80) :
    decodeLossy (before ++ b :: after) =
      decodeLossy before ++ Char.ofNat b.toNat :: decodeLossy after := by
  obtain ⟨ps, hfeed, hps⟩ := (beyondAscii_initial.foldl before).feed_ascii hb
  have hafter := State.foldl_append [] ps none after
  rw [List.nil_append] at hafter
  rw [decodeLossy, pieces, List.foldl_append, List.foldl_cons, hfeed, hafter,
    State.finish_append, List.map_append, hps, List.append_assoc]
  rfl

/-- A line feed among octets is one among the characters. -/
lemma decodeLossy_append_lineFeed (before after : Octets) :
    decodeLossy (before ++ 10 :: after) = decodeLossy before ++ '\n' :: decodeLossy after :=
  decodeLossy_append_ascii before after (by decide)

lemma State.finish_feed_ne_nil (s : State) (b : UInt8) : (s.feed b).finish ≠ [] := by
  have hrestart : ∀ ps : List Piece, (restart ps b).finish ≠ [] := by
    intro ps
    unfold restart
    split <;> simp [State.finish]
  unfold State.feed
  split
  · exact hrestart _
  · split
    · split <;> simp [State.finish]
    · exact hrestart _

/-- No octets are lost altogether. -/
lemma decodeLossy_eq_nil_iff {octets : Octets} : decodeLossy octets = [] ↔ octets = [] := by
  constructor
  · intro h
    rcases List.eq_nil_or_concat' octets with rfl | ⟨init, b, rfl⟩
    · rfl
    · rw [decodeLossy, pieces, List.foldl_concat, List.map_eq_nil_iff] at h
      exact absurd h (State.finish_feed_ne_nil _ b)
  · rintro rfl
    rfl

end Utf8

namespace CompilerOutput

/-! ## The lines of the text -/

/-- Decoding commutes with cutting at line feeds. -/
theorem splitAll_decodeLossy (octets : Octets) :
    Text.splitAll (· == '\n') (Utf8.decodeLossy octets) =
      (streamPieces octets).map Utf8.decodeLossy := by
  induction hn : octets.length using Nat.strong_induction_on generalizing octets with
  | _ n ih =>
    have hunbroken : ∀ line : Octets, lineEnd ∉ line →
        Text.splitAll (· == '\n') (Utf8.decodeLossy line) =
          (streamPieces line).map Utf8.decodeLossy := by
      intro line hline
      have hoctets : ∀ b ∈ line, b ≠ lineEnd := fun b hb heq => hline (heq ▸ hb)
      rw [streamPieces_of_not_mem hline, List.map_singleton,
        Text.splitAll_of_forall_not fun c hc =>
          beq_eq_false_iff_ne.2 (Utf8.ne_lineFeed_of_mem_decodeLossy hoctets hc)]
    by_cases hmem : lineEnd ∈ octets
    · -- the first line is decoded by itself, and so is what follows its end
      obtain ⟨line, after, rfl, hline⟩ := List.eq_append_cons_of_mem hmem
      have hafter : after.length < n := by
        rw [← hn, List.length_append, List.length_cons]
        omega
      calc Text.splitAll (· == '\n') (Utf8.decodeLossy (line ++ lineEnd :: after))
          = Text.splitAll (· == '\n') (Utf8.decodeLossy line ++ '\n' :: Utf8.decodeLossy after) :=
            congrArg _ (Utf8.decodeLossy_append_lineFeed line after)
        _ = (streamPieces line).map Utf8.decodeLossy ++
              (streamPieces after).map Utf8.decodeLossy := by
            rw [Text.splitAll_append_cons _ _ (by rfl), hunbroken line hline,
              ih after.length hafter after rfl]
        _ = (streamPieces (line ++ lineEnd :: after)).map Utf8.decodeLossy := by
            rw [← List.map_append, streamPieces_append_cons]
    · exact hunbroken octets hmem

/-- The lines of a stream as those of one text: its octets are decoded all at once, the text is cut
at its line feeds, where what follows the last one counts unless it is empty, and CR and LF at the
end of each piece are dropped. -/
def textLines (octets : Octets) : List String :=
  let pieces := Text.splitAll (· == '\n') (Utf8.decodeLossy octets)
  let lines := if pieces.getLastD [] = [] then pieces.dropLast else pieces
  lines.map fun piece => String.ofList (piece.rdropWhile Text.isLineEnd)

/-- The lines of the text are the texts of the lines. -/
theorem textLines_eq (octets : Octets) : textLines octets = (streamLines octets).map lineText := by
  obtain ⟨init, last, hpieces⟩ := exists_streamPieces octets
  rw [streamLines_of_pieces hpieces]
  simp only [textLines, splitAll_decodeLossy, hpieces, List.map_append, List.map_singleton,
    List.getLastD_concat, List.dropLast_concat, Utf8.decodeLossy_eq_nil_iff]
  split
  · simp only [List.map_map]
    rfl
  · simp only [List.map_append, List.map_map]
    rfl

example : textLines [0xE2, 0x82, 13, 10, 97] = ["\uFFFD", "a"] := by decide

/-! ## What is gathered -/

section CollectLines

variable {read : String → Except Fault (List Diagnostic)} {lines : List Octets}
  {dss : List (List Diagnostic)} (parsed : (lines.map lineText).mapM read = .ok dss)

include parsed

lemma collectLines_of_parsed : collectLines read lines [] = ⟨dss.flatten, none⟩ := by
  have hread : (collectLines read lines []).toExcept = .ok dss.flatten := by
    rw [List.mapM_map] at parsed
    rw [toExcept_collectLines]
    exact congrArg (Except.map List.flatten) parsed
  obtain ⟨hfault, hdiagnostics⟩ := Collected.toExcept_eq_ok_iff.1 hread
  rw [← hfault, ← hdiagnostics]

lemma collectLines_of_fails {line : Octets} {f : Fault} (fails : read (lineText line) = .error f)
    {all : List Octets} (first : lines ++ [line] <+: all) :
    collectLines read all [] = ⟨dss.flatten, some f⟩ := by
  obtain ⟨rest, rfl⟩ := first
  rw [List.append_assoc, collectLines_append, collectLines_of_parsed parsed]
  simp [collectLines, fails]

end CollectLines

/-- What has to be gathered from a stream, said of its octets as one text. -/
structure ReadsAsText (read : String → Except Fault (List Diagnostic)) (limit : Nat)
    (octets : Octets) (c : Collected) : Prop where
  /-- If no line is too long and every line of the text is read, all that was read. -/
  complete : (∀ line ∈ streamLines octets, line.length ≤ limit) →
    ∀ dss, (textLines octets).mapM read = .ok dss → c = ⟨dss.flatten, none⟩
  /-- If the first line of the text that cannot be read comes before any that is too long, what was
  read before it, and its failure. -/
  failing : ∀ before piece after dss f, textLines octets = before ++ piece :: after →
    (∀ line ∈ (streamLines octets).take (before.length + 1), line.length ≤ limit) →
    before.mapM read = .ok dss → read piece = .error f → c = ⟨dss.flatten, some f⟩
  /-- If a line is too long and the lines of the text before it are read, what was read, and a
  failure of its own that names no line. -/
  tooLong : ∀ before long after dss, streamLines octets = before ++ long :: after →
    (∀ line ∈ before, line.length ≤ limit) → limit < long.length →
    ((textLines octets).take before.length).mapM read = .ok dss →
    ∃ found, c = ⟨dss.flatten, some (.output (.lineTooLong found) "")⟩

/-- Lines up to one that fits come before a line that is too long. -/
lemma prefix_of_fits {limit : Nat} {first before after : List Octets} {long : Octets}
    (hfirst : first <+: before ++ long :: after) (fits : ∀ line ∈ first, line.length ≤ limit)
    (exceeds : limit < long.length) : first <+: before := by
  have hlong : long ∉ first := fun hmem => Nat.not_lt.2 (fits long hmem) exceeds
  have hbefore : before ++ [long] <+: before ++ long :: after := ⟨after, by simp⟩
  rcases List.prefix_or_prefix_of_prefix hfirst hbefore with h | h
  · rcases List.prefix_concat_iff.1 h with rfl | h
    · exact absurd (by simp) hlong
    · exact h
  · exact absurd (h.subset (by simp)) hlong

/-- The octets behind the lines of a text up to one of them. -/
lemma exists_prefix_of_textLines {octets : Octets} {before after : List String} {line : String}
    (h : textLines octets = before ++ line :: after) :
    ∃ lines last, lines ++ [last] = (streamLines octets).take (before.length + 1) ∧
      lines.map lineText = before ∧ lineText last = line := by
  rw [textLines_eq] at h
  obtain ⟨lines, tail, hsplit, rfl, htail⟩ := List.map_eq_append_iff.1 h
  obtain ⟨last, rest, rfl, rfl, -⟩ := List.map_eq_cons_iff.1 htail
  refine ⟨lines, last, ?_, rfl, rfl⟩
  rw [hsplit, List.length_map, List.take_length_add_append, List.take_succ_cons, List.take_zero]

/-- **Reading line by line comes to the reading of the whole text.**  For either generation, every
limit and every way in which the octets of a stream are cut into the chunks in which they arrive,
what is gathered from the chunks is what has to be gathered from the text of all octets. -/
theorem collectChunks_readsAsText [Platform] (g : Generation) (target : String) (limit : Nat)
    (chunks : List Octets) :
    ReadsAsText (g.readLine target) limit chunks.flatten
      (collectChunks g target limit chunks true) := by
  rcases collectChunks_cases g target limit chunks with
    ⟨hfits, hchunks⟩ | ⟨before, long, after, found, hlines, hfits, hlong, hchunks⟩
  · rw [hchunks]
    refine ⟨fun _ dss hread => ?_, ?_, ?_⟩
    · rw [textLines_eq] at hread
      exact collectLines_of_parsed hread
    · rintro before line after dss f hsplit - hread hfails
      obtain ⟨lines, last, hfirst, rfl, rfl⟩ := exists_prefix_of_textLines hsplit
      exact collectLines_of_fails hread hfails (hfirst ▸ List.take_prefix _ _)
    · rintro before long after dss hsplit - hlong -
      have hmem : long ∈ streamLines chunks.flatten := by simp [hsplit]
      exact absurd hlong (Nat.not_lt.2 (hfits long hmem))
  · rw [hchunks]
    refine ⟨fun hall => ?_, ?_, ?_⟩
    · have hmem : long ∈ streamLines chunks.flatten := by simp [hlines]
      exact absurd hlong (Nat.not_lt.2 (hall long hmem))
    · rintro before' line after' dss f hsplit hfirstFits hread hfails
      obtain ⟨lines, last, hfirst, rfl, rfl⟩ := exists_prefix_of_textLines hsplit
      rw [← hfirst] at hfirstFits
      have hprefix : lines ++ [last] <+: before ++ long :: after := by
        rw [hfirst, ← hlines]
        exact List.take_prefix _ _
      rw [collectLines_of_fails hread hfails (prefix_of_fits hprefix hfirstFits hlong)]
      rfl
    · rintro before' long' after' dss hsplit hfits' hlong' hread
      have hsame : before' = before := by
        have hboth : before' ++ long' :: after' = before ++ long :: after := hsplit ▸ hlines
        have hle : before' <+: before :=
          prefix_of_fits (hboth ▸ List.prefix_append before' _) hfits' hlong
        have hge : before <+: before' :=
          prefix_of_fits (hboth ▸ List.prefix_append before _) hfits hlong'
        exact hle.eq_of_length_le hge.length_le
      subst hsame
      rw [textLines_eq, hlines, List.map_append, List.take_append_of_le_length (by simp),
        List.take_of_length_le (by simp)] at hread
      rw [collectLines_of_parsed hread]
      exact ⟨found, rfl⟩

end CompilerOutput

end ElmOnSave
