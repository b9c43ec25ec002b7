import SocksProxy.AccessLog
import SocksProxy.Library.Separators
import SocksProxy.Theorems.Destination
import SocksProxy.UserMap

/-!
# The lines of the access log

A line of the access log joins the name of the user and the name of the destination with plain text between them, and neither is
checked for that text. The line stands for itself, one record and no other, unless a name contains a line feed or the text that
separates the two.
-/

namespace SocksProxy

/-- A call of `access_log_connection`: for a user, whose name has one byte at least and fits its field, and for an accepted request
that has a name. -/
structure LoggedCall where
  user : CString
  buffer : List Byte
  request : Socks5Request
  success : Bool
  named : FieldBytes user.bytes
  accepted : socks5ParseConnectRequest buffer = some (some request)
  logged : request.destination.bytes ≠ []

/-- The arguments of the call. -/
def LoggedCall.entry (e : LoggedCall) : AccessLogEntry :=
  { username := e.user, host := e.request.destination, port := e.request.port, success := e.success }

/-- A domain without NUL, parsed from its request, is the name of the destination. -/
theorem destination_parsed {name : List Byte} (port : UInt16) (nonempty : 0 < name.length) (fits : name.length ≤ 255)
    (noNul : (0 : Byte) ∉ name) :
    (ConnectRequest.parsed { destination := .domain name nonempty fits, port }).destination.bytes = name := by
  rw [destination_of_domain (r := ConnectRequest.parsed { destination := .domain name nonempty fits, port }) rfl fits]
  exact ofBuffer_bytes_eq_iff.mpr noNul

/-- The call for the request for a domain without NUL. -/
def LoggedCall.ofDomain (user : CString) (name : List Byte) (port : UInt16) (success : Bool) (named : FieldBytes user.bytes)
    (nonempty : 0 < name.length) (fits : name.length ≤ 255) (noNul : (0 : Byte) ∉ name) : LoggedCall :=
  let q : ConnectRequest := { destination := .domain name nonempty fits, port }
  { user := user, buffer := q.encode ++ [], request := q.parsed, success := success, named := named,
    accepted := socks5ParseConnectRequest_iff.mpr (connectGrammar_encode q []),
    logged := by
      rw [destination_parsed port nonempty fits noNul]
      exact List.ne_nil_of_length_pos nonempty }

/-- The text between the two names. -/
def destText : List Byte := ascii " dest="

/-- It is six bytes long. -/
theorem length_destText : destText.length = 6 := rfl

/-- The name of the user and the name of the destination leave no doubt about the line: there is no line feed in them, and neither
contains the text between them in such a way that the line could be cut there into two other names. -/
structure LoggedCall.Plain (e : LoggedCall) : Prop where
  user_line : (0x0A : Byte) ∉ e.user.bytes
  host_line : (0x0A : Byte) ∉ e.request.destination.bytes
  user_cut : ∀ a b, e.user.bytes = a ++ (destText ++ b) →
    a = [] ∨ 255 < b.length + destText.length + e.request.destination.bytes.length
  host_cut : ∀ a b, e.request.destination.bytes = a ++ (destText ++ b) →
    b = [] ∨ 255 < e.user.bytes.length + destText.length + a.length

/-! ## The parts of a line -/

/-- A digit is the character its byte stands for. -/
theorem byte_of_isDigit {c : Char} (h : c.isDigit = true) :
    0x30 ≤ UInt8.ofNat c.toNat ∧ UInt8.ofNat c.toNat ≤ 0x39 ∧ Char.ofNat (UInt8.ofNat c.toNat).toNat = c := by
  obtain ⟨hlo, hhi⟩ := Char.isDigit_iff_toNat.mp h
  replace hlo : 48 ≤ c.toNat := hlo
  replace hhi : c.toNat ≤ 57 := hhi
  have hb : (UInt8.ofNat c.toNat).toNat = c.toNat := by
    rw [UInt8.toNat_ofNat']
    exact Nat.mod_eq_of_lt (by omega)
  refine ⟨UInt8.le_iff_toNat_le.mpr ?_, UInt8.le_iff_toNat_le.mpr ?_, ?_⟩
  · rw [hb]
    exact hlo
  · rw [hb]
    exact hhi
  · rw [hb, Char.ofNat_toNat]

/-- A number is printed in digits. -/
theorem digit_of_mem_decimal {n : Nat} {b : Byte} (h : b ∈ decimal n) : 0x30 ≤ b ∧ b ≤ 0x39 := by
  obtain ⟨c, hc, rfl⟩ := List.mem_map.mp h
  have hd := byte_of_isDigit (Nat.isDigit_of_mem_toDigits (by decide) (by decide) hc)
  exact ⟨hd.1, hd.2.1⟩

/-- A number can be read back from its digits. -/
theorem decimal_inj {n m : Nat} (h : decimal n = decimal m) : n = m := by
  have hchars : ∀ n, (decimal n).map (fun b => Char.ofNat b.toNat) = Nat.toDigits 10 n := by
    intro n
    rw [decimal, List.map_map]
    refine (List.map_congr_left fun c hc => ?_).trans (List.map_id _)
    exact (byte_of_isDigit (Nat.isDigit_of_mem_toDigits (by decide) (by decide) hc)).2.2
  have hdigits : Nat.toDigits 10 n = Nat.toDigits 10 m := by rw [← hchars, h, hchars]
  rw [← Nat.ofDigitChars_ten_toDigits (n := n), hdigits, Nat.ofDigitChars_ten_toDigits]

/-- The text between the two names begins with the only space in it. -/
theorem destText_eq : ∃ w : List Byte, destText = 0x20 :: w ∧ (0x20 : Byte) ∉ w := ⟨ascii "dest=", rfl, by decide⟩

/-- A number is printed without spaces. -/
theorem space_not_mem_toDigits (b n : Nat) : (0x20 : Byte) ∉ (Nat.toDigits b n).map fun c => UInt8.ofNat c.toNat := by
  have hdigit : ∀ n, UInt8.ofNat (Nat.digitChar n).toNat ≠ 0x20 :=
    digitChar_cases (P := fun c => UInt8.ofNat c.toNat ≠ 0x20) (by decide) (by decide)
  have hdigits : ∀ c ∈ Nat.toDigits b n, UInt8.ofNat c.toNat ≠ 0x20 :=
    mem_toDigitsCore (P := fun c => UInt8.ofNat c.toNat ≠ 0x20) hdigit nofun
  intro h
  obtain ⟨c, hc, hspace⟩ := List.mem_map.mp h
  exact hdigits c hc hspace

/-- Parts without spaces, joined by a separator without spaces. -/
theorem space_not_mem_joinWith {sep : List Byte} (hsep : (0x20 : Byte) ∉ sep) {parts : List (List Byte)}
    (h : ∀ part ∈ parts, (0x20 : Byte) ∉ part) : (0x20 : Byte) ∉ joinWith sep parts := by
  induction parts with
  | nil => exact nofun
  | cons part rest ih =>
    have hpart := h part (List.mem_cons_self ..)
    cases rest with
    | nil => exact hpart
    | cons next rest =>
      have hrest := ih fun p hp => h p (List.mem_cons_of_mem _ hp)
      simp only [joinWith, List.mem_append, not_or] at hrest ⊢
      exact ⟨⟨hpart, hsep⟩, hrest⟩

/-- An IPv4 address is printed without spaces. -/
theorem space_not_mem_inetNtop4 (addr : List Byte) : (0x20 : Byte) ∉ inetNtop4 addr := by
  refine space_not_mem_joinWith (by decide) fun part hpart => ?_
  obtain ⟨b, _, rfl⟩ := List.mem_map.mp hpart
  exact space_not_mem_toDigits 10 b.toNat

/-- A list of groups is printed without spaces. -/
theorem space_not_mem_hexGroups (gs : List Nat) : (0x20 : Byte) ∉ hexGroups gs := by
  refine space_not_mem_joinWith (by decide) fun part hpart => ?_
  obtain ⟨g, _, rfl⟩ := List.mem_map.mp hpart
  exact space_not_mem_toDigits 16 g

/-- An IPv6 address is printed without spaces. -/
theorem space_not_mem_inetNtop6 (addr : List Byte) : (0x20 : Byte) ∉ inetNtop6 addr := by
  have hcolons : (0x20 : Byte) ∉ ascii "::" := by decide
  have hmapped : ∀ len : Nat, (0x20 : Byte) ∉ (if len = 5 then ascii "ffff:" else []) := by
    intro len
    split
    · decide
    · exact nofun
  unfold inetNtop6
  dsimp only
  split
  · exact space_not_mem_hexGroups _
  · split
    · simp only [List.mem_append, not_or]
      exact ⟨⟨hcolons, hmapped _⟩, space_not_mem_inetNtop4 _⟩
    · simp only [List.mem_append, not_or]
      exact ⟨⟨space_not_mem_hexGroups _, hcolons⟩, space_not_mem_hexGroups _⟩

/-- Only a domain can have a space in its name. -/
theorem domain_of_space {r : Socks5Request} (h : (0x20 : Byte) ∈ r.destination.bytes) : r.atyp = socks5AtypDomain := by
  have hbuffer : ∀ text : List Byte, (0x20 : Byte) ∈ (CString.ofBuffer text).bytes → (0x20 : Byte) ∈ text :=
    fun text hs => (List.takeWhile_sublist _).subset hs
  by_contra hr
  unfold Socks5Request.destination at h
  rw [if_neg hr] at h
  split at h
  · exact space_not_mem_inetNtop4 _ (hbuffer _ h)
  · split at h
    · exact space_not_mem_inetNtop6 _ (hbuffer _ h)
    · exact absurd h (by decide)

/-- A name with a space is that of a domain, and has the length of one. -/
theorem length_of_space {buffer : List Byte} {r : Socks5Request} (hparse : socks5ParseConnectRequest buffer = some (some r))
    (h : (0x20 : Byte) ∈ r.destination.bytes) : r.destination.bytes.length ≤ 255 := by
  have hlen := length_host hparse
  rw [destination_of_domain (domain_of_space h) hlen]
  exact ((List.takeWhile_sublist _).length_le).trans hlen

namespace LoggedCall

variable (e : LoggedCall)

/-- The two names with the text between them. -/
def names : List Byte := e.user.bytes ++ (destText ++ e.request.destination.bytes)

/-- What stands after the last `=`. -/
def status : List Byte := (if e.success then ascii "OK" else ascii "FAIL") ++ ascii "\n"

/-- The line of a call, cut at the `=` signs that are not within the names. -/
theorem line_eq (timestamp : List Byte) : accessLogLine timestamp e.entry =
    (timestamp ++ ascii " user=" ++ e.names ++ ascii " port") ++ 0x3D :: (decimal e.request.port.toNat ++ ascii " status") ++
      0x3D :: e.status := by
  have hport : ascii " port=" = ascii " port" ++ [0x3D] := rfl
  have hstatus : ascii " status=" = ascii " status" ++ [0x3D] := rfl
  have huser : e.entry.username.bytes ≠ [] := List.ne_nil_of_length_pos e.named.1
  have hhost : e.entry.host.bytes ≠ [] := e.logged
  rw [accessLogLine, if_neg huser, if_neg hhost, hport, hstatus]
  simp only [names, status, destText, entry, List.append_assoc, List.cons_append, List.nil_append]
  rfl

/-- The last part of a line contains no `=`. -/
theorem status_equals : (0x3D : Byte) ∉ e.status := by
  unfold status
  cases e.success <;> decide

/-- Nor does the part before it. -/
theorem port_equals (n : Nat) : (0x3D : Byte) ∉ decimal n ++ ascii " status" := by
  intro h
  rcases List.mem_append.mp h with h | h
  · exact absurd (digit_of_mem_decimal h).2 (by decide)
  · exact absurd h (by decide)

variable {e} {e' : LoggedCall}

/-- Two calls with the same line agree in everything but where one name ends and the other begins. -/
theorem parts_of_line {timestamp : List Byte} (h : accessLogLine timestamp e.entry = accessLogLine timestamp e'.entry) :
    e.names = e'.names ∧ e.request.port = e'.request.port ∧ e.success = e'.success := by
  rw [line_eq, line_eq] at h
  obtain ⟨h, hstatus⟩ := Separators.cut_last e.status_equals e'.status_equals h
  obtain ⟨h, hport⟩ := Separators.cut_last (port_equals _) (port_equals _) h
  refine ⟨List.append_cancel_left (List.append_cancel_right h), ?_, ?_⟩
  · exact UInt16.toNat_inj.mp (decimal_inj (List.append_cancel_right hport))
  · have hword := List.append_cancel_right hstatus
    generalize e.success = ok at hword ⊢
    generalize e'.success = ok' at hword ⊢
    cases ok <;> cases ok' <;> first | rfl | exact absurd hword (by decide)

/-- Two calls with the same parts have the same line. -/
theorem line_of_parts (timestamp : List Byte) (hnames : e.names = e'.names) (hport : e.request.port = e'.request.port)
    (hsuccess : e.success = e'.success) : accessLogLine timestamp e.entry = accessLogLine timestamp e'.entry := by
  rw [line_eq, line_eq, hnames, hport, status, status, hsuccess]

/-- The ways two calls can have the same names: they name the same user and host, or one name contains the text between them and
the other call has a part of it. -/
theorem cases_of_names (h : e.names = e'.names) :
    (e'.user.bytes = e.user.bytes ∧ e'.request.destination.bytes = e.request.destination.bytes) ∨
    (∃ m, e.user.bytes = e'.user.bytes ++ (destText ++ m) ∧
      e'.request.destination.bytes = m ++ (destText ++ e.request.destination.bytes)) ∨
    ∃ m, e.request.destination.bytes = m ++ (destText ++ e'.request.destination.bytes) ∧
      e'.user.bytes = e.user.bytes ++ (destText ++ m) := by
  obtain ⟨w, hw, hspace⟩ := destText_eq
  unfold names at h
  rw [hw] at h ⊢
  exact Separators.cut_cases hspace h

/-- A call for every user and every name a domain can have. -/
theorem exists_call (user host : List Byte) (hu : FieldBytes user) (hu0 : (0 : Byte) ∉ user) (hpos : 0 < host.length)
    (hlen : host.length ≤ 255) (h0 : (0 : Byte) ∉ host) (port : UInt16) (success : Bool) :
    ∃ c : LoggedCall, c.user.bytes = user ∧ c.request.destination.bytes = host ∧ c.request.port = port ∧
      c.success = success :=
  ⟨ofDomain ⟨user, hu0⟩ host port success hu hpos hlen h0, rfl, destination_parsed port hpos hlen h0, rfl, rfl⟩

/-- The line without the line feed at its end. -/
def body (e : LoggedCall) (timestamp : List Byte) : List Byte :=
  (timestamp ++ ascii " user=" ++ e.names ++ ascii " port") ++ 0x3D :: (decimal e.request.port.toNat ++ ascii " status") ++
    0x3D :: (if e.success then ascii "OK" else ascii "FAIL")

/-- A line ends in a line feed. -/
theorem line_eq_body (timestamp : List Byte) : accessLogLine timestamp e.entry = e.body timestamp ++ [0x0A] := by
  have hnewline : ascii "\n" = [0x0A] := rfl
  rw [line_eq, status, hnewline, body]
  simp only [List.append_assoc, List.cons_append]

/-- The rest of the line has a line feed only if a name has. -/
theorem feed_mem_body {timestamp : List Byte} (hts : (0x0A : Byte) ∉ timestamp) : (0x0A : Byte) ∈ e.body timestamp ↔
    (0x0A : Byte) ∈ e.user.bytes ∨ (0x0A : Byte) ∈ e.request.destination.bytes := by
  have huser : (0x0A : Byte) ∉ ascii " user=" := by decide
  have hdest : (0x0A : Byte) ∉ destText := by decide
  have hport : (0x0A : Byte) ∉ ascii " port" := by decide
  have hstatus : (0x0A : Byte) ∉ ascii " status" := by decide
  have hdecimal : (0x0A : Byte) ∉ decimal e.request.port.toNat := fun h => absurd (digit_of_mem_decimal h).1 (by decide)
  have hword : (0x0A : Byte) ∉ (if e.success then ascii "OK" else ascii "FAIL") := by cases e.success <;> decide
  have hequals : (0x0A : Byte) ≠ 0x3D := by decide
  simp only [body, names, List.mem_append, List.mem_cons, hts, huser, hdest, hport, hstatus, hdecimal, hword, hequals, or_false,
    false_or]

/-- Two calls of the same arguments have the same names. -/
theorem eq_of_entry (h : e'.entry = e.entry) :
    e'.user.bytes = e.user.bytes ∧ e'.request.destination.bytes = e.request.destination.bytes := by
  simp only [entry, AccessLogEntry.mk.injEq] at h
  exact ⟨congrArg CString.bytes h.1, congrArg CString.bytes h.2.1⟩

/-- A call whose line no other call has leaves no doubt. -/
theorem plain_of_unique {timestamp : List Byte} (hfeed : (0x0A : Byte) ∉ e.body timestamp)
    (hts : (0x0A : Byte) ∉ timestamp)
    (h : ∀ e' : LoggedCall, accessLogLine timestamp e'.entry = accessLogLine timestamp e.entry → e'.entry = e.entry) :
    e.Plain := by
  rw [feed_mem_body hts, not_or] at hfeed
  refine ⟨hfeed.1, hfeed.2, fun a b huser => ?_, fun a b hhost => ?_⟩
  · -- the other call is for the user `a`, and for a domain that begins with the rest of the name
    by_contra hlong
    simp only [not_or, Nat.not_lt] at hlong
    obtain ⟨hne, hlen⟩ := hlong
    have hu0 := e.user.noNul
    rw [huser] at hu0
    have hfield := e.named
    rw [huser] at hfield
    obtain ⟨c, hcu, hch, hcp, hcs⟩ := exists_call a (b ++ (destText ++ e.request.destination.bytes))
      ⟨List.length_pos_of_ne_nil hne, ((List.sublist_append_left _ _).length_le).trans hfield.2⟩
      (fun h0 => hu0 (List.mem_append_left _ h0)) (by
        simp only [List.length_append, length_destText]
        omega)
      (by
        simp only [List.length_append]
        omega)
      (by
        simp only [List.mem_append, not_or] at hu0 ⊢
        exact ⟨hu0.2.2, hu0.2.1, e.request.destination.noNul⟩) e.request.port e.success
    have hnames : c.names = e.names := by
      rw [names, names, hcu, hch, huser]
      simp only [List.append_assoc]
    have hsame := (eq_of_entry (h c (line_of_parts timestamp hnames hcp hcs))).1
    rw [hcu, huser] at hsame
    have hshorter := congrArg List.length hsame
    simp only [List.length_append, length_destText] at hshorter
    omega
  · -- the other call is for a user whose name ends with the beginning of the domain
    by_contra hlong
    simp only [not_or, Nat.not_lt] at hlong
    obtain ⟨hne, hlen⟩ := hlong
    have hspace : (0x20 : Byte) ∈ e.request.destination.bytes := by
      rw [hhost]
      simp [destText, ascii]
    have hfits := length_of_space e.accepted hspace
    have hh0 := e.request.destination.noNul
    rw [hhost] at hh0 hfits
    obtain ⟨c, hcu, hch, hcp, hcs⟩ := exists_call (e.user.bytes ++ (destText ++ a)) b
      ⟨(e.named.1).trans_le (List.sublist_append_left _ _).length_le, by
        simp only [List.length_append, usersFieldMax]
        omega⟩
      (by
        simp only [List.mem_append, not_or] at hh0 ⊢
        exact ⟨e.user.noNul, hh0.2.1, hh0.1⟩) (List.length_pos_of_ne_nil hne)
      ((((List.sublist_append_right destText b).trans (List.sublist_append_right a _)).length_le).trans hfits)
      (fun h0 => hh0 (List.mem_append_right _ (List.mem_append_right _ h0))) e.request.port e.success
    have hnames : c.names = e.names := by
      rw [names, names, hcu, hch, hhost]
      simp only [List.append_assoc]
    have hsame := (eq_of_entry (h c (line_of_parts timestamp hnames hcp hcs))).2
    rw [hch, hhost] at hsame
    have hshorter := congrArg List.length hsame
    simp only [List.length_append, length_destText] at hshorter
    omega

/-- A call that leaves no doubt shares its line with no other call. -/
theorem unique_of_plain (hplain : e.Plain) {timestamp : List Byte}
    (h : accessLogLine timestamp e'.entry = accessLogLine timestamp e.entry) : e'.entry = e.entry := by
  obtain ⟨hnames, hport, hsuccess⟩ := parts_of_line h.symm
  obtain ⟨huser, hhost⟩ | ⟨m, huser, hhost⟩ | ⟨m, hhost, huser⟩ := cases_of_names hnames
  · simp only [entry, AccessLogEntry.mk.injEq]
    exact ⟨CString.ext huser, CString.ext hhost, hport.symm, hsuccess.symm⟩
  · have hspace : (0x20 : Byte) ∈ e'.request.destination.bytes := by
      rw [hhost]
      simp [destText, ascii]
    have hfits := length_of_space e'.accepted hspace
    rw [hhost] at hfits
    simp only [List.length_append] at hfits
    rcases hplain.user_cut _ _ huser with hnil | hlong
    · exact absurd hnil (List.ne_nil_of_length_pos e'.named.1)
    · omega
  · have hfits := e'.named.2
    rw [huser] at hfits
    simp only [List.length_append, usersFieldMax] at hfits
    rcases hplain.host_cut _ _ hhost with hnil | hlong
    · exact absurd hnil e'.logged
    · omega

end LoggedCall

/-- A call of `access_log_connection` appends one line, which no call with other arguments appends, if and only if the file can be
opened and the names leave no doubt about the line. -/
theorem log_line_unique (e : LoggedCall) (opened : Bool) (timestamp file : List Byte) (hts : (0x0A : Byte) ∉ timestamp) :
    ((∃ body, accessLogConnection opened timestamp e.entry file = file ++ (body ++ [0x0A]) ∧ (0x0A : Byte) ∉ body) ∧
      ∀ e' : LoggedCall, accessLogConnection opened timestamp e'.entry file = accessLogConnection opened timestamp e.entry file →
        e'.entry = e.entry) ↔ opened = true ∧ e.Plain := by
  cases opened with
  | false =>
    constructor
    · intro h
      obtain ⟨⟨body, hbody, _⟩, _⟩ := h
      exact absurd (congrArg List.length hbody) (by simp [accessLogConnection])
    · intro h
      exact absurd h.1 (by decide)
  | true =>
    have happend : ∀ c : LoggedCall, accessLogConnection true timestamp c.entry file = file ++ accessLogLine timestamp c.entry :=
      fun _ => rfl
    simp only [happend, List.append_cancel_left_eq, true_and]
    constructor
    · intro h
      obtain ⟨⟨body, hbody, hfeed⟩, hunique⟩ := h
      rw [LoggedCall.line_eq_body] at hbody
      obtain rfl := List.append_cancel_right hbody
      exact LoggedCall.plain_of_unique hfeed hts hunique
    · intro hplain
      refine ⟨⟨e.body timestamp, LoggedCall.line_eq_body timestamp, ?_⟩, fun e' h => LoggedCall.unique_of_plain hplain h⟩
      rw [LoggedCall.feed_mem_body hts, not_or]
      exact ⟨hplain.user_line, hplain.host_line⟩

/-- The time in the calls below. -/
def someTime : List Byte := ascii "2026-07-11T14:45:42Z"

/-- The call of an anonymous user for a domain of one letter. -/
def letterCall (success : Bool) : LoggedCall := .ofDomain (literal "anonymous") (ascii "a") 80 success (by decide) (by decide)
  (by decide) (by decide)

/-- A name of one letter makes one line, and the line says whether the request was served. -/
theorem log_line_unique_letter :
    (∃ body, accessLogConnection true someTime (letterCall true).entry [] = [] ++ (body ++ [0x0A]) ∧ (0x0A : Byte) ∉ body) ∧
    accessLogConnection true someTime (letterCall false).entry [] ≠
      accessLogConnection true someTime (letterCall true).entry [] := by
  have hplain : (letterCall true).Plain := by
    have huser : (0x20 : Byte) ∉ (letterCall true).user.bytes := by decide
    have hhost : (0x20 : Byte) ∉ (letterCall true).request.destination.bytes := by decide
    refine ⟨by decide, by decide, fun a b h => absurd ?_ huser, fun a b h => absurd ?_ hhost⟩
    · rw [h]
      simp [destText, ascii]
    · rw [h]
      simp [destText, ascii]
  obtain ⟨hone, hunique⟩ := (log_line_unique (letterCall true) true someTime [] (by decide)).mpr ⟨rfl, hplain⟩
  exact ⟨hone, fun h => absurd (hunique _ h) (by decide)⟩

/-- A domain that holds the rest of a line and the beginning of another. -/
def forgingCall : LoggedCall :=
  .ofDomain (literal "anonymous") (ascii "a port=80 status=OK" ++ [0x0A] ++ someTime ++ ascii " user=alice dest=a") 80 true
    (by decide) (by decide) (by decide) (by decide)

/-- A call of the user `alice`. -/
def aliceCall : LoggedCall := .ofDomain (literal "alice") (ascii "a") 80 true (by decide) (by decide) (by decide) (by decide)

/-- The call for a domain that contains the text between the names. -/
def spacedHostCall : LoggedCall :=
  .ofDomain (literal "anonymous") (ascii "a dest=b") 80 true (by decide) (by decide) (by decide) (by decide)

/-- The call of a user whose name contains it. -/
def spacedUserCall : LoggedCall :=
  .ofDomain (literal "anonymous dest=a") (ascii "b") 80 true (by decide) (by decide) (by decide) (by decide)

/-- One call may append what two calls append, the second in the name of another user, and two calls with different arguments may
append the same line. -/
theorem log_line_forged :
    (¬∃ body, accessLogConnection true someTime forgingCall.entry [] = [] ++ (body ++ [0x0A]) ∧ (0x0A : Byte) ∉ body) ∧
    accessLogConnection true someTime forgingCall.entry [] =
      accessLogConnection true someTime aliceCall.entry (accessLogConnection true someTime (letterCall true).entry []) ∧
    accessLogConnection true someTime spacedHostCall.entry [] = accessLogConnection true someTime spacedUserCall.entry [] ∧
    spacedHostCall.entry ≠ spacedUserCall.entry := by
  refine ⟨?_, by decide +kernel, by decide +kernel, by decide +kernel⟩
  intro h
  obtain ⟨body, hbody, hfeed⟩ := h
  have hinit := congrArg List.dropLast hbody
  rw [List.nil_append, List.dropLast_concat] at hinit
  refine hfeed ?_
  rw [← hinit]
  decide +kernel

end SocksProxy
