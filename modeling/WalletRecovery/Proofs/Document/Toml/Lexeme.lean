import WalletRecovery.Document.Toml.Writer
import WalletRecovery.Proofs.Numeral
import WalletRecovery.Proofs.Text.Reader

/-! # Pieces of TOML read back

A quoted text is read back to its closing quote, character by character: an escape stands for the
character that it was written for. A key without quotes ends at the first blank. -/

namespace WalletRecovery.Toml

open Text

variable {c : Char} {ds rest : List Char}

theorem takes_mark (c : Char) (cs : List Char) : Takes (mark c) (c :: cs) () cs :=
  if_pos rfl

theorem takes_blanks (h : isBlank c = false) (cs : List Char) :
    Takes blanks (c :: cs) () (c :: cs) := by
  rw [Takes, blanks, List.dropWhile_cons_of_neg (by simp [h])]
  rfl

theorem takes_blanks_cons (h : isBlank c = false) (cs : List Char) :
    Takes blanks (' ' :: c :: cs) () (c :: cs) := by
  rw [Takes, blanks, List.dropWhile_cons_of_pos rfl]
  exact takes_blanks h cs

theorem takes_trailing (cs : List Char) : Takes trailing ('\n' :: cs) () cs := by
  have hcomment : Takes comment ('\n' :: cs) () ('\n' :: cs) := rfl
  have hend : Takes lineEnd ('\n' :: cs) () cs := rfl
  exact (takes_blanks rfl cs).bind (hcomment.bind hend)

/-! ## Quoted texts -/

theorem toNat_lt_of_not_isPlain (h : isPlain c = false) : c.toNat < 0x80 := by
  simp only [isPlain, Bool.or_eq_false_iff, Bool.and_eq_false_iff, decide_eq_false_iff_not,
    bne_eq_false_iff_eq] at h
  omega

theorem ofHexDigits?_hexChar (h : c.toNat < 0x10000) :
    ofHexDigits? ((Numeral.fixed 16 4 c.toNat).map Numeral.hexChar) = some c := by
  have hdigits : ∀ d ∈ Numeral.fixed 16 4 c.toNat, d < 16 := fun _ => Numeral.fixed_lt (by decide)
  have hvalue : Numeral.value 16 (Numeral.fixed 16 4 c.toNat) = c.toNat := by
    rw [Numeral.value_fixed]
    exact Nat.mod_eq_of_lt h
  rw [ofHexDigits?, Numeral.mapM_hexValue?_hexChar hdigits]
  change (if (Numeral.value 16 _).isValidChar then some (Char.ofNat (Numeral.value 16 _)) else none)
    = _
  rw [hvalue, Char.ofNat_toNat]
  exact if_pos c.valid

theorem basicText_escapeChar (fuel : ℕ) (c : Char) (read rest : List Char) :
    basicText (fuel + 1) read (escapeChar c ++ rest) = basicText fuel (c :: read) rest := by
  rw [escapeChar]
  split
  · next h => rw [h]; rfl
  split
  · next h => rw [h]; rfl
  split
  · next hquote hslash hplain =>
    rw [List.singleton_append, basicText, if_pos hplain]
    · exact hquote
    · exact hslash
  · next hplain =>
    have hlt := toNat_lt_of_not_isPlain (Bool.eq_false_iff.mpr hplain)
    have hlength : ((Numeral.fixed 16 4 c.toNat).map Numeral.hexChar).length = 4 := by simp
    have hescape : escape? ('u' :: ((Numeral.fixed 16 4 c.toNat).map Numeral.hexChar ++ rest)) =
        some (c, rest) := by
      rw [escape?, if_neg (by rw [List.length_append]; omega), List.take_left' hlength,
        List.drop_left' hlength, ofHexDigits?_hexChar (by omega)]
      rfl
    rw [List.cons_append, List.cons_append, basicText, hescape]

theorem basicText_flatMap_escapeChar {fuel : ℕ} (cs read rest : List Char)
    (hfuel : cs.length < fuel) :
    basicText fuel read (cs.flatMap escapeChar ++ '"' :: rest) =
      some (read.reverse ++ cs, rest) := by
  induction cs generalizing fuel read with
  | nil =>
    obtain ⟨fuel, rfl⟩ := Nat.exists_eq_succ_of_ne_zero (Nat.ne_zero_of_lt hfuel)
    rw [List.flatMap_nil, List.nil_append, basicText, List.append_nil]
  | cons c cs ih =>
    obtain ⟨fuel, rfl⟩ := Nat.exists_eq_succ_of_ne_zero (Nat.ne_zero_of_lt hfuel)
    rw [List.flatMap_cons, List.append_assoc, basicText_escapeChar,
      ih _ (Nat.lt_of_succ_lt_succ hfuel), List.reverse_cons, List.append_assoc,
      List.singleton_append]

theorem exists_escapeChar (c : Char) : ∃ d ds, d ≠ '"' ∧ escapeChar c = d :: ds := by
  rw [escapeChar]
  split
  · exact ⟨_, _, by decide, rfl⟩
  split
  · exact ⟨_, _, by decide, rfl⟩
  split
  · next hquote _ _ => exact ⟨_, _, hquote, rfl⟩
  · exact ⟨_, _, by decide, rfl⟩

theorem takes_shortQuoted_quote (s : String) (cs : List Char) :
    Takes shortQuoted (quote s ++ cs) s cs := by
  have hbody : quote s ++ cs = '"' :: (s.toList.flatMap escapeChar ++ '"' :: cs) := by
    simp [quote]
  have hne : ∀ c ∈ s.toList, escapeChar c ≠ [] := by
    intro c _
    obtain ⟨d, ds, -, hchar⟩ := exists_escapeChar c
    rw [hchar]
    exact List.cons_ne_nil d ds
  have hlength := length_le_flatMap hne
  rw [hbody, Takes, shortQuoted, basicText_flatMap_escapeChar]
  · simp
  · rw [List.length_append]
    omega

/-- A quoted text does not open with three quotes: behind the first one stands no quote, or that of
an empty text and then the end of the line. -/
theorem quote_append_ne (s : String) (cs tail : List Char) :
    quote s ++ '\n' :: cs ≠ '"' :: '"' :: '"' :: tail := by
  rw [quote]
  cases s.toList with
  | nil => simp
  | cons c s =>
    obtain ⟨d, ds, hne, hchar⟩ := exists_escapeChar c
    simp [hchar, hne]

/-- Whether texts are quoted in a way that readers of documents undo, up to the end of the line. -/
structure Quotes (q : String → List Char) : Prop where
  /-- Every text starts with a quote of either kind. -/
  head (s : String) : (q s).head? = some '"' ∨ (q s).head? = some '\''
  /-- Every text is read back. -/
  takes (s : String) (cs : List Char) : Takes quoted (q s ++ '\n' :: cs) s ('\n' :: cs)

theorem quotes_quote : Quotes quote where
  head s := Or.inl rfl
  takes s cs := by
    have hshort := takes_shortQuoted_quote s ('\n' :: cs)
    rw [Takes, quoted]
    · exact hshort
    · exact quote_append_ne s cs
    · intro tail heq
      cases heq

/-! ## Keys -/

theorem isBlank_of_isKeyChar (h : isKeyChar c = true) : isBlank c = false := by
  rw [isBlank, Bool.or_eq_false_iff, beq_eq_false_iff_ne, beq_eq_false_iff_ne]
  exact ⟨ne_of_class h rfl, ne_of_class h rfl⟩

theorem takes_key {name : List Char} (hname : name ≠ []) (hkey : ∀ c ∈ name, isKeyChar c = true)
    (cs : List Char) :
    Takes key (name ++ ' ' :: '=' :: cs) [String.ofList name] ('=' :: cs) := by
  have htaken : (name ++ ' ' :: '=' :: cs).takeWhile isKeyChar = name := by
    rw [List.takeWhile_append_of_pos hkey, List.takeWhile_cons_of_neg (by decide), List.append_nil]
  obtain ⟨c, name, rfl⟩ := List.exists_cons_of_ne_nil hname
  have hpart : Takes keyPart (c :: name ++ ' ' :: '=' :: cs) (String.ofList (c :: name))
      (' ' :: '=' :: cs) := by
    rw [Takes, keyPart, htaken]
    dsimp only
    rw [List.drop_left]
    rfl
  have hblank := isBlank_of_isKeyChar (hkey c List.mem_cons_self)
  refine (takes_blanks hblank _).bind (hpart.bind ?_)
  exact (takes_blanks_cons rfl cs).bind (Takes.bind rfl (takes_pure _ _))

end WalletRecovery.Toml
