import SocksProxy.Theorems.CommandLine
import SocksProxy.Theorems.LogLines

/-!
# Writing a command line

Whatever an operator wants the server to be set to can be written on its command line, each setting as an option and its argument, in
one element or in two, in any order and any number of times: `parse_args` reads back what was written. Of the addresses and the ports
the last one counts, and the users are all there in their order.
-/

namespace SocksProxy

/-- A setting of the server. -/
inductive Setting where
  | socksAddr (addr : CString)
  | mngAddr (addr : CString)
  | socksPort (number : UInt16)
  | mngPort (number : UInt16)
  | user (name password : CString)

namespace Setting

/-- The letter of its option. -/
def letter : Setting → Char
  | socksAddr _ => 'l'
  | mngAddr _ => 'L'
  | socksPort _ => 'p'
  | mngPort _ => 'P'
  | user _ _ => 'u'

/-- The argument of its option. -/
def text : Setting → List Byte
  | socksAddr addr => addr.bytes
  | mngAddr addr => addr.bytes
  | socksPort number => decimal number.toNat
  | mngPort number => decimal number.toNat
  | user name password => name.bytes ++ 0x3A :: password.bytes

/-- The setting on a command line: the option and its argument in one element, or in two. -/
def written (attached : Bool) (s : Setting) : List CString :=
  if attached then [CString.ofBuffer (0x2D :: UInt8.ofNat s.letter.toNat :: s.text)]
  else [CString.ofBuffer [0x2D, UInt8.ofNat s.letter.toNat], CString.ofBuffer s.text]

/-- The setting can be written so: an argument in the same element is not empty, and the name of a user has no colon. -/
def Writable (attached : Bool) (s : Setting) : Prop :=
  (attached = true → s.text ≠ []) ∧ ∀ name password, s = user name password → (0x3A : Byte) ∉ name.bytes

/-- The address of the proxy that is set. -/
def socksAddr? : Setting → Option CString
  | socksAddr addr => some addr
  | _ => none

/-- The address of the management port that is set. -/
def mngAddr? : Setting → Option CString
  | mngAddr addr => some addr
  | _ => none

/-- The port of the proxy that is set. -/
def socksPort? : Setting → Option UInt16
  | socksPort number => some number
  | _ => none

/-- The management port that is set. -/
def mngPort? : Setting → Option UInt16
  | mngPort number => some number
  | _ => none

/-- The user that is added. -/
def user? : Setting → Option (Option CString × Option CString)
  | user name password => some (some name, some password)
  | _ => none

end Setting

/-- The last of the values that some settings give something, or its default. -/
def lastSet {α : Type} (f : Setting → Option α) (default : α) (settings : List Setting) : α :=
  (settings.filterMap f).getLast?.getD default

/-- What settings come to. -/
def Socks5Args.ofSettings (settings : List Setting) : Socks5Args where
  socksAddr := lastSet Setting.socksAddr? (literal "0.0.0.0") settings
  socksPort := lastSet Setting.socksPort? 1080 settings
  mngAddr := lastSet Setting.mngAddr? (literal "127.0.0.1") settings
  mngPort := lastSet Setting.mngPort? 8080 settings
  users := storedPairs (settings.filterMap Setting.user?)

/-! ## Numbers and users -/

/-- The digits of a number, read one after another. -/
theorem foldl_digits (l : List Char) (hl : ∀ c ∈ l, c.isDigit = true) (x : Nat) :
    (l.map fun c => UInt8.ofNat c.toNat).foldl (fun (n : Int) (c : Byte) => 10 * n + (c.toNat - 48 : Nat)) x =
      (Nat.ofDigitChars 10 l x : Nat) := by
  induction l generalizing x with
  | nil => rw [Nat.ofDigitChars_nil]; rfl
  | cons c l ih =>
    have hc : (UInt8.ofNat c.toNat).toNat = c.toNat := by
      have hhi : c.toNat ≤ 57 := (Char.isDigit_iff_toNat.mp (hl c List.mem_cons_self)).2
      rw [UInt8.toNat_ofNat']
      exact Nat.mod_eq_of_lt (by omega)
    rw [Nat.ofDigitChars_cons, ← ih fun d hd => hl d (List.mem_cons_of_mem c hd)]
    simp only [List.map_cons, List.foldl_cons, hc]
    congr 1

/-- `strtol` reads a string of digits. -/
theorem strtol_digits {digits : List Byte} (hne : digits ≠ []) (h : ∀ b ∈ digits, 0x30 ≤ b ∧ b ≤ 0x39) :
    strtol digits = some (max longMin (min longMax
      (digits.foldl (fun (n : Int) (c : Byte) => 10 * n + (c.toNat - 48 : Nat)) 0)), []) := by
  have hdigit : ∀ b ∈ digits, isDigit b = true := by
    intro b hb
    obtain ⟨hlo, hhi⟩ := h b hb
    simp only [isDigit, Bool.and_eq_true, decide_eq_true_eq]
    exact ⟨hlo, hhi⟩
  obtain ⟨b, rest, rfl⟩ := List.exists_cons_of_ne_nil hne
  have hb := (h b List.mem_cons_self).1
  have hspace : isSpace b = false := by
    rw [UInt8.le_iff_toNat_le] at hb
    simp only [isSpace, Bool.or_eq_false_iff, Bool.and_eq_false_iff, beq_eq_false_iff_ne, decide_eq_false_iff_not]
    refine ⟨fun he => ?_, .inr fun hle => ?_⟩
    · rw [he] at hb
      exact absurd hb (by decide)
    · rw [UInt8.le_iff_toNat_le] at hle
      have : (0x30 : Byte).toNat ≤ (13 : Byte).toNat := hb.trans hle
      exact absurd this (by decide)
  have hsign : b ≠ 45 ∧ b ≠ 43 := ⟨fun he => absurd (he ▸ hb) (by decide), fun he => absurd (he ▸ hb) (by decide)⟩
  unfold strtol
  rw [List.dropWhile_cons_of_neg (by rw [hspace]; decide)]
  dsimp only
  split
  · rename_i heq
    exact absurd (List.cons.inj heq).1 hsign.1
  · rename_i heq
    exact absurd (List.cons.inj heq).1 hsign.2
  · rw [List.takeWhile_eq_self_iff.mpr hdigit, List.dropWhile_eq_nil_iff.mpr hdigit, if_neg hne]
    rfl

/-- `port` reads back a port that was printed. -/
theorem port_decimal (number : UInt16) : port (CString.ofBuffer (decimal number.toNat)) = some number := by
  have hdigits : ∀ b ∈ decimal number.toNat, 0x30 ≤ b ∧ b ≤ 0x39 := fun b hb => digit_of_mem_decimal hb
  have hnul : (0 : Byte) ∉ decimal number.toNat := fun h0 => absurd (hdigits 0 h0).1 (by decide)
  have hne : decimal number.toNat ≠ [] := by
    rw [decimal, Ne, List.map_eq_nil_iff]
    exact Nat.toDigits_ne_nil
  have hvalue : (decimal number.toNat).foldl (fun (n : Int) (c : Byte) => 10 * n + (c.toNat - 48 : Nat)) 0 = number.toNat := by
    have hchars : ∀ c ∈ Nat.toDigits 10 number.toNat, c.isDigit = true :=
      fun c hc => Nat.isDigit_of_mem_toDigits (by decide) (by decide) hc
    rw [decimal]
    exact (foldl_digits _ hchars 0).trans (by rw [Nat.ofDigitChars_ten_toDigits])
  have hlt := number.toNat_lt
  rw [CString.ofBuffer_of_noNul hnul, port, strtol_digits hne hdigits, hvalue]
  dsimp only
  have hclamp : max longMin (min longMax (number.toNat : Int)) = number.toNat := by
    have hmin : longMin ≤ number.toNat := by
      unfold longMin
      omega
    have hmax : (number.toNat : Int) ≤ longMax := by
      unfold longMax
      omega
    rw [min_eq_right hmax, max_eq_right hmin]
  rw [hclamp, if_neg ?_, Int.toNat_natCast, UInt16.ofNat_toNat]
  rintro (hn | hn | hn)
  · exact hn rfl
  · omega
  · omega

/-- `user` reads back a user whose name has no colon. -/
theorem user_text {name password : CString} (h : (0x3A : Byte) ∉ name.bytes) :
    user (CString.ofBuffer (name.bytes ++ 0x3A :: password.bytes)) = some (some name, some password) := by
  have hnul : (0 : Byte) ∉ name.bytes ++ 0x3A :: password.bytes := by
    simp only [List.mem_append, List.mem_cons, name.noNul, password.noNul, or_false, false_or]
    decide
  have hname : ∀ b ∈ name.bytes, (b != 58) = true := fun b hb => bne_iff_ne.mpr fun he => h (he ▸ hb)
  rw [CString.ofBuffer_of_noNul hnul, user]
  dsimp only
  rw [List.dropWhile_append_of_pos hname, List.takeWhile_append_of_pos hname, List.dropWhile_cons_of_neg (by decide),
    List.takeWhile_cons_of_neg (by decide), List.append_nil, CString.ofBuffer_bytes]
  dsimp only
  rw [CString.ofBuffer_bytes]

/-! ## Options -/

/-- The option of a setting, as `getopt_long` returns it. -/
def Setting.opt (s : Setting) : Opt := ⟨s.letter, some (CString.ofBuffer s.text)⟩

/-- The text of a setting has no NUL. -/
theorem Setting.noNul (s : Setting) : (0 : Byte) ∉ s.text := by
  have hdecimal : ∀ n, (0 : Byte) ∉ decimal n := fun n h0 => absurd (digit_of_mem_decimal h0).1 (by decide)
  cases s with
  | socksAddr addr => exact addr.noNul
  | mngAddr addr => exact addr.noNul
  | socksPort number => exact hdecimal _
  | mngPort number => exact hdecimal _
  | user name password =>
    simp only [text, List.mem_append, List.mem_cons, name.noNul, password.noNul, or_false, false_or]
    decide

/-- The letter of a setting is that of an option with an argument, and it is a letter of its own. -/
theorem Setting.letter_byte (s : Setting) :
    Char.ofNat (UInt8.ofNat s.letter.toNat).toNat = s.letter ∧ takesArgument s.letter = some true ∧
      UInt8.ofNat s.letter.toNat ≠ 0 ∧ UInt8.ofNat s.letter.toNat ≠ 0x2D := by
  cases s <;> simp only [letter] <;> decide

/-- An element that is a dash, a letter that takes an argument, and what may follow. -/
theorem getoptLong_element {letter : Byte} {l : Char} (hl : Char.ofNat letter.toNat = l) (ht : takesArgument l = some true)
    (hne : letter ≠ 0x2D) {arg : CString} {text : List Byte} (harg : arg.bytes = 0x2D :: letter :: text) (rest : List CString) :
    getoptLong none (arg :: rest) =
      if text = [] then getoptLong (some l) rest
      else (⟨l, some (CString.ofBuffer text)⟩ :: (getoptLong none rest).1, (getoptLong none rest).2) := by
  have hcluster : getoptCluster (letter :: text) =
      if text = [] then ([], some l) else ([⟨l, some (CString.ofBuffer text)⟩], none) := by
    rw [getoptCluster, hl]
    dsimp only
    rw [ht]
  rw [getoptLong, harg]
  split
  · rename_i heq
    exact absurd (List.cons.inj (List.cons.inj heq).2).1 hne
  · rename_i heq
    exact absurd (List.cons.inj (List.cons.inj heq).2).1 hne
  · rename_i heq
    obtain ⟨rfl, rfl⟩ := List.cons.inj (List.cons.inj heq).2
    rw [hcluster]
    by_cases he : text = []
    · rw [if_pos he, if_pos he]
      rfl
    · rw [if_neg he, if_neg he]
      rfl
  · rename_i hno
    exact absurd rfl (hno letter text)

/-- `getopt_long` reads back a setting that was written. -/
theorem getoptLong_written {attached : Bool} {s : Setting} (h : s.Writable attached) (rest : List CString) :
    getoptLong none (s.written attached ++ rest) = (s.opt :: (getoptLong none rest).1, (getoptLong none rest).2) := by
  obtain ⟨hl, ht, h0, hdash⟩ := s.letter_byte
  unfold Setting.written
  cases attached with
  | true =>
    have hnul : (0 : Byte) ∉ 0x2D :: UInt8.ofNat s.letter.toNat :: s.text := by
      simp only [List.mem_cons, s.noNul, or_false, not_or]
      exact ⟨by decide, h0.symm⟩
    rw [if_pos rfl, CString.ofBuffer_of_noNul hnul, List.singleton_append, getoptLong_element hl ht hdash rfl,
      if_neg (h.1 rfl)]
    rfl
  | false =>
    have hnul : (0 : Byte) ∉ [0x2D, UInt8.ofNat s.letter.toNat] := by
      simp only [List.mem_cons, List.not_mem_nil, or_false, not_or]
      exact ⟨by decide, h0.symm⟩
    rw [if_neg Bool.false_ne_true, CString.ofBuffer_of_noNul hnul, List.cons_append, getoptLong_element hl ht hdash rfl,
      if_pos rfl, List.singleton_append, getoptLong]
    rfl

/-! ## What the options come to -/

/-- How many users some settings add. -/
def countUserSettings (settings : List Setting) : Nat := (settings.filterMap Setting.user?).length

/-- A list of one. -/
theorem filterMap_one {α β : Type} (f : α → Option β) (a : α) : [a].filterMap f = (f a).toList := by
  rw [List.filterMap_cons]
  cases f a <;> rfl

/-- The last setting counts. -/
theorem lastSet_concat {α : Type} (f : Setting → Option α) (default : α) (settings : List Setting) (s : Setting) :
    lastSet f default (settings ++ [s]) = (f s).getD (lastSet f default settings) := by
  unfold lastSet
  rw [List.filterMap_append, List.filterMap_cons]
  cases f s with
  | none => simp
  | some a => simp

/-- One more setting. -/
theorem ofSettings_concat (settings : List Setting) (s : Setting) :
    Socks5Args.ofSettings (settings ++ [s]) =
      { socksAddr := s.socksAddr?.getD (Socks5Args.ofSettings settings).socksAddr
        socksPort := s.socksPort?.getD (Socks5Args.ofSettings settings).socksPort
        mngAddr := s.mngAddr?.getD (Socks5Args.ofSettings settings).mngAddr
        mngPort := s.mngPort?.getD (Socks5Args.ofSettings settings).mngPort
        users := storedPairs (settings.filterMap Setting.user? ++ s.user?.toList) } := by
  unfold Socks5Args.ofSettings
  simp only [lastSet_concat, List.filterMap_append, filterMap_one]

/-- One turn of the loop of `parse_args` makes the setting that was written. -/
theorem parseOpt_setting (settings : List Setting) {s : Setting} {attached : Bool} (h : s.Writable attached)
    (hcount : countUserSettings settings ≤ maxUsers) :
    parseOpt (.ofSettings settings) (countUserSettings settings) s.opt =
      if countUserSettings (settings ++ [s]) ≤ maxUsers then
        some (.ofSettings (settings ++ [s]), countUserSettings (settings ++ [s]))
      else none := by
  have hn : countUserSettings (settings ++ [s]) = countUserSettings settings + s.user?.toList.length := by
    rw [countUserSettings, List.filterMap_append, List.length_append, filterMap_one]
    rfl
  rw [hn, ofSettings_concat]
  have hsame : storedPairs (settings.filterMap Setting.user? ++ []) = (Socks5Args.ofSettings settings).users := by
    rw [List.append_nil]
    rfl
  cases s with
  | socksAddr addr =>
    have hp : parseOpt (.ofSettings settings) (countUserSettings settings) (Setting.socksAddr addr).opt =
        some ({ Socks5Args.ofSettings settings with socksAddr := CString.ofBuffer addr.bytes }, countUserSettings settings) := rfl
    rw [hp, CString.ofBuffer_bytes]
    dsimp only
    rw [← hsame]
    exact (if_pos hcount).symm
  | mngAddr addr =>
    have hp : parseOpt (.ofSettings settings) (countUserSettings settings) (Setting.mngAddr addr).opt =
        some ({ Socks5Args.ofSettings settings with mngAddr := CString.ofBuffer addr.bytes }, countUserSettings settings) := rfl
    rw [hp, CString.ofBuffer_bytes]
    dsimp only
    rw [← hsame]
    exact (if_pos hcount).symm
  | socksPort number =>
    have hp : parseOpt (.ofSettings settings) (countUserSettings settings) (Setting.socksPort number).opt =
        (port (CString.ofBuffer (decimal number.toNat))).map fun p =>
          ({ Socks5Args.ofSettings settings with socksPort := p }, countUserSettings settings) := rfl
    rw [hp, port_decimal, Option.map_some]
    dsimp only
    rw [← hsame]
    exact (if_pos hcount).symm
  | mngPort number =>
    have hp : parseOpt (.ofSettings settings) (countUserSettings settings) (Setting.mngPort number).opt =
        (port (CString.ofBuffer (decimal number.toNat))).map fun p =>
          ({ Socks5Args.ofSettings settings with mngPort := p }, countUserSettings settings) := rfl
    rw [hp, port_decimal, Option.map_some]
    dsimp only
    rw [← hsame]
    exact (if_pos hcount).symm
  | user name password =>
    have hp : parseOpt (.ofSettings settings) (countUserSettings settings) (Setting.user name password).opt =
        if countUserSettings settings ≥ maxUsers then none
        else (SocksProxy.user (CString.ofBuffer (name.bytes ++ 0x3A :: password.bytes))).map fun u =>
          ({ Socks5Args.ofSettings settings with users :=
              (Socks5Args.ofSettings settings).users.set (countUserSettings settings) u }, countUserSettings settings + 1) := rfl
    rw [hp, user_text (h.2 name password rfl)]
    by_cases hfull : countUserSettings settings ≥ maxUsers
    · rw [if_pos hfull]
      exact (if_neg (Nat.not_le.mpr (Nat.lt_succ_of_le hfull))).symm
    · have hset : (Socks5Args.ofSettings settings).users.set (countUserSettings settings) (some name, some password) =
          storedPairs (settings.filterMap Setting.user? ++ [(some name, some password)]) :=
        set_storedPairs (Nat.lt_of_not_le hfull) _
      rw [if_neg hfull, Option.map_some]
      dsimp only
      rw [hset]
      exact (if_pos (Nat.lt_of_not_le hfull)).symm

/-- The loop of `parse_args` makes the settings that were written, as long as there is room for the users. -/
theorem parseOpts_settings (done : List Setting) (todo : List (Bool × Setting)) (h : ∀ x ∈ todo, x.2.Writable x.1)
    (hcount : countUserSettings done ≤ maxUsers) :
    parseOpts (.ofSettings done) (countUserSettings done) (todo.map (·.2.opt)) =
      if countUserSettings (done ++ todo.map Prod.snd) ≤ maxUsers then some (.ofSettings (done ++ todo.map Prod.snd)) else none := by
  induction todo generalizing done with
  | nil =>
    rw [List.map_nil, List.map_nil, List.append_nil, if_pos hcount]
    rfl
  | cons x todo ih =>
    rw [List.map_cons, parseOpts, parseOpt_setting done (h x List.mem_cons_self) hcount]
    have hcons : done ++ (x :: todo).map Prod.snd = (done ++ [x.2]) ++ todo.map Prod.snd := by simp
    by_cases hfit : countUserSettings (done ++ [x.2]) ≤ maxUsers
    · rw [if_pos hfit, hcons]
      exact ih (done ++ [x.2]) (fun y hy => h y (List.mem_cons_of_mem x hy)) hfit
    · rw [if_neg hfit, if_neg ?_]
      rw [hcons]
      intro hle
      refine hfit (Nat.le_trans ?_ hle)
      have hsplit : (done ++ [x.2] ++ todo.map Prod.snd).filterMap Setting.user? =
          (done ++ [x.2]).filterMap Setting.user? ++ (todo.map Prod.snd).filterMap Setting.user? := List.filterMap_append
      rw [countUserSettings, countUserSettings, hsplit, List.length_append]
      exact Nat.le_add_right _ _

/-- `getopt_long` reads back settings that were written, one after another. -/
theorem getoptLong_settings (settings : List (Bool × Setting)) (h : ∀ x ∈ settings, x.2.Writable x.1) :
    getoptLong none (settings.flatMap fun x => x.2.written x.1) = (settings.map (·.2.opt), []) := by
  induction settings with
  | nil => rw [List.flatMap_nil, getoptLong]; rfl
  | cons x settings ih =>
    rw [List.flatMap_cons, getoptLong_written (h x List.mem_cons_self), ih fun y hy => h y (List.mem_cons_of_mem x hy)]
    rfl

/-- The round trip of a command line. Settings that are written in any order, any number of times, and each in one element or in two,
are read back by `parse_args`: of the addresses and the ports the last one counts, and the default where there is none; the users are
all there, unless there are more than ten, which `parse_args` refuses. The users table that `main` makes of that stands for the map of
those pairs. -/
theorem parse_args_settings (settings : List (Bool × Setting)) (h : ∀ x ∈ settings, x.2.Writable x.1) :
    parseArgs (settings.flatMap fun x => x.2.written x.1) =
      (if countUserSettings (settings.map Prod.snd) ≤ maxUsers then some (.ofSettings (settings.map Prod.snd)) else none) ∧
    (countUserSettings (settings.map Prod.snd) ≤ maxUsers →
      (Socks5Args.ofSettings (settings.map Prod.snd)).managedUsers.StandsFor
        (.ofArgs ((settings.map Prod.snd).filterMap Setting.user?))) := by
  constructor
  · unfold parseArgs
    rw [getoptLong_settings settings h]
    dsimp only
    rw [show Socks5Args.initial = Socks5Args.ofSettings [] from rfl, show 0 = countUserSettings [] from rfl,
      parseOpts_settings [] settings h (Nat.zero_le _), List.nil_append]
    by_cases hfit : countUserSettings (settings.map Prod.snd) ≤ maxUsers
    · rw [if_pos hfit]
      exact if_neg (not_not.mpr rfl)
    · rw [if_neg hfit]
  · intro hcount
    rw [Socks5Args.managedUsers, show (Socks5Args.ofSettings (settings.map Prod.snd)).users =
      storedPairs ((settings.map Prod.snd).filterMap Setting.user?) from rfl, take_countUsers hcount]
    · exact standsFor_usersInitFromArgs _
    · intro p hp
      obtain ⟨s, _, hs⟩ := List.mem_filterMap.mp hp
      cases s with
      | user name password => cases hs; rfl
      | _ => cases hs

/-- Two ports, one of them in one element, and a user whose password has a colon. -/
def someSettings : List (Bool × Setting) :=
  [(false, .socksPort 80), (true, .socksPort 1081), (true, .user (literal "a") (literal "p:q"))]

/-- They are read back. -/
theorem parse_args_settings_some :
    parseArgs [literal "-p", literal "80", literal "-p1081", literal "-ua:p:q"] =
      some (.ofSettings (someSettings.map Prod.snd)) := by
  have hw : ∀ x ∈ someSettings, x.2.Writable x.1 := by
    intro x hx
    simp only [someSettings, List.mem_cons, List.not_mem_nil, or_false] at hx
    rcases hx with rfl | rfl | rfl
    · exact ⟨(by intro h; cases h), fun name password he => by cases he⟩
    · exact ⟨(fun _ => by decide +kernel), fun name password he => by cases he⟩
    · refine ⟨(fun _ => by decide +kernel), fun name password he => ?_⟩
      cases he
      decide +kernel
  have hwritten : [literal "-p", literal "80", literal "-p1081", literal "-ua:p:q"] =
      someSettings.flatMap fun x => x.2.written x.1 := by decide +kernel
  rw [hwritten, (parse_args_settings someSettings hw).1]
  exact if_pos (by decide)

end SocksProxy
