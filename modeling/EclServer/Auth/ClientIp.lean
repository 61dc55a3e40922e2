import EclServer.Core

/-!
The client address behind proxies (`app/dependencies.py`, `get_client_ip`).

A proxy that is trusted appends the address it was called from to `X-Forwarded-For`, after a
comma; what stands before is whatever the client sent. The address is read by its distance
from the right (`clientIpIndex`), so that nothing the client writes can move it:
`addresses_forwarded` splits the list at the client's part, and the part of the proxies has
exactly as many entries as there are proxies.
-/

namespace EclServer.Auth

/-- The settings `get_client_ip` reads. -/
structure ProxySettings where
  trustProxyHeaders : Bool := false
  trustedProxyCount : ℤ := 1

/-- `header.split(",")`. -/
def splitCommas (header : String) : List String :=
  (header.toList.splitOn ',').map String.ofList

/-- `[ip.strip() for ip in header.split(",") if ip.strip()]`. -/
def addresses (header : String) : List String :=
  ((splitCommas header).filter fun ip => pyStrip ip ≠ "").map pyStrip

/-- `max(0, len(ips) - settings.trusted_proxy_count)`. -/
def clientIpIndex (settings : ProxySettings) (ips : List String) : ℕ :=
  ((ips.length : ℤ) - settings.trustedProxyCount).toNat

/-- `get_client_ip`: `none` is the `IndexError` of `ips[idx]`. -/
def getClientIp (settings : ProxySettings) (xForwardedFor : Option String) : Option String :=
  match xForwardedFor with
  | none => some "127.0.0.1"
  | some header =>
      if settings.trustProxyHeaders = true ∧ header ≠ "" then
        let ips := addresses header
        if ips = [] then some "127.0.0.1" else ips[clientIpIndex settings ips]?
      else some "127.0.0.1"

/-- The header as a chain of proxies leaves it, each having appended one address. -/
def forwardedFor (client : String) (appended : List String) : String :=
  appended.foldl (fun header ip => header ++ "," ++ ip) client

/-- An address as a proxy writes it: not blank, and without a comma. -/
structure Address (ip : String) : Prop where
  nonblank : pyStrip ip ≠ ""
  comma : ',' ∉ ip.toList

section Parts

lemma splitCommas_append (header ip : String) :
    splitCommas (header ++ "," ++ ip) = splitCommas header ++ splitCommas ip := by
  have hlist : (header ++ "," ++ ip).toList = header.toList ++ ',' :: ip.toList := by
    simp [String.toList_append]
  rw [splitCommas, hlist, List.splitOn_append_cons_self, List.map_append]
  rfl

lemma addresses_append (header ip : String) :
    addresses (header ++ "," ++ ip) = addresses header ++ addresses ip := by
  rw [addresses, splitCommas_append, List.filter_append, List.map_append]
  rfl

lemma addresses_address {ip : String} (hip : Address ip) : addresses ip = [pyStrip ip] := by
  have hsplit : splitCommas ip = [ip] := by
    rw [splitCommas, List.splitOn_eq_singleton hip.comma, List.map_singleton, String.ofList_toList]
  rw [addresses, hsplit, List.filter_singleton]
  simp [hip.nonblank]

/-- Whatever the client sent, the addresses of the proxies come last and unchanged. -/
lemma addresses_forwarded (client : String) {appended : List String}
    (happended : ∀ ip ∈ appended, Address ip) :
    addresses (forwardedFor client appended) = addresses client ++ appended.map pyStrip := by
  induction appended generalizing client with
  | nil => simp [forwardedFor]
  | cons ip rest ih =>
      have hrest : ∀ q ∈ rest, Address q := fun q hq => happended q (List.mem_cons_of_mem _ hq)
      have hstep : forwardedFor client (ip :: rest) = forwardedFor (client ++ "," ++ ip) rest := rfl
      rw [hstep, ih _ hrest, addresses_append, addresses_address (happended ip (by simp)),
        List.append_assoc, List.map_cons, List.singleton_append]

end Parts

section Lookup

variable {settings : ProxySettings}

/-- With at least one trusted proxy the index lies in the list: no header raises. -/
theorem getClientIp_isSome (hcount : 1 ≤ settings.trustedProxyCount) (header : Option String) :
    (getClientIp settings header).isSome = true := by
  cases header with
  | none => rfl
  | some header =>
      unfold getClientIp
      dsimp only
      split_ifs with htrust hnil
      · rfl
      · have hpos : 0 < (addresses header).length := List.length_pos_iff.mpr hnil
        have hlt : clientIpIndex settings (addresses header) < (addresses header).length := by
          rw [clientIpIndex]
          omega
        rw [List.getElem?_eq_getElem hlt]
        rfl
      · rfl

lemma getClientIp_of_addresses (htrust : settings.trustProxyHeaders = true) {header : String}
    (hne : addresses header ≠ []) :
    getClientIp settings (some header)
      = (addresses header)[clientIpIndex settings (addresses header)]? := by
  have hheader : header ≠ "" := by
    intro h
    exact hne (by rw [h]; decide)
  unfold getClientIp
  dsimp only
  rw [if_pos ⟨htrust, hheader⟩, if_neg hne]

/-- **The address of the client**: behind `n` trusted proxies it is the one that the first of them
appended, for every header the client sends, as what the client writes stands before what the
proxies append. -/
theorem getClientIp_forwarded (first : String) (rest : List String)
    (htrust : settings.trustProxyHeaders = true)
    (hcount : settings.trustedProxyCount = (first :: rest).length)
    (happended : ∀ ip ∈ first :: rest, Address ip) :
    (∀ client,
      getClientIp settings (some (forwardedFor client (first :: rest))) = some (pyStrip first))
    ∧ ∀ client client',
        getClientIp settings (some (forwardedFor client (first :: rest)))
          = getClientIp settings (some (forwardedFor client' (first :: rest))) := by
  have hone : ∀ client,
      getClientIp settings (some (forwardedFor client (first :: rest)))
        = some (pyStrip first) := by
    intro client
    have haddresses := addresses_forwarded client happended
    have hne : addresses (forwardedFor client (first :: rest)) ≠ [] := by
      rw [haddresses, List.map_cons]
      exact List.append_ne_nil_of_right_ne_nil _ (List.cons_ne_nil _ _)
    -- counted from the right the index passes over the proxies' part only
    have hindex : clientIpIndex settings (addresses client ++ (first :: rest).map pyStrip)
        = (addresses client).length := by
      rw [clientIpIndex, hcount, List.length_append, List.length_map]
      omega
    rw [getClientIp_of_addresses htrust hne, haddresses, hindex,
      List.getElem?_append_right (le_refl _), Nat.sub_self, List.map_cons, List.getElem?_cons_zero]
  refine ⟨hone, ?_⟩
  intro client client'
  rw [hone client, hone client']

theorem getClientIp_forwarded_two :
    (∀ client,
      getClientIp ⟨true, 2⟩ (some (forwardedFor client [" 203.0.113.7", "10.0.0.2"]))
        = some (pyStrip " 203.0.113.7"))
    ∧ ∀ client client',
        getClientIp ⟨true, 2⟩ (some (forwardedFor client [" 203.0.113.7", "10.0.0.2"]))
          = getClientIp ⟨true, 2⟩
              (some (forwardedFor client' [" 203.0.113.7", "10.0.0.2"])) := by
  refine @getClientIp_forwarded ⟨true, 2⟩ " 203.0.113.7" ["10.0.0.2"] rfl rfl ?_
  intro ip hip
  rcases List.mem_cons.mp hip with rfl | hip
  · exact ⟨by decide, by decide⟩
  · rw [List.mem_singleton] at hip
    subst hip
    exact ⟨by decide, by decide⟩

example : getClientIp ⟨true, 1⟩ (some "6.6.6.6, ,, 1.1.1.1 ,203.0.113.7") = some "203.0.113.7" := by
  decide

end Lookup

end EclServer.Auth
