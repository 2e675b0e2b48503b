import Mathlib.Data.Bool.AllAny
import V2xHub.Lib.Xml

/-!
# Emergency vehicles

`ERVCloudForwardingPlugin::handleBSM` and `ERVCloudForwardingWorker`: which BSM is forwarded to the cloud, and the request that
is made of it. The members of the message that are not looked at, and its encoding, are parameters. The request is written
into an array on the stack that nothing initialises: what is returned without a request is the string it happens to hold.
-/

namespace V2xHub.ERVCloudForwardingPlugin

structure Position3D where
  lat : Int
  Long : Int

structure EmergencyDetails where
  sirenUse : Int
  lightsUse : Int
  responseType : Option Int

inductive PartIIValue where
  | NOTHING
  | VehicleSafetyExtensions
  | SpecialVehicleExtensions (vehicleAlerts : Option EmergencyDetails)
  | SupplementalVehicleExtensions

inductive RegExtValue where
  | NOTHING
  | other
  | addGrpCarma (routeDestinationPoints : Option (List Position3D))

/-- A basic safety message; `rest` is what is only encoded. -/
structure Bsm (ρ : Type*) where
  lat : Int
  Long : Int
  partII : Option (List PartIIValue)
  regional : Option (List RegExtValue)
  rest : ρ

def ResponseType_emergency : Int := 1
def LightbarInUse_inUse : Int := 2
def SirenInUse_inUse : Int := 2

/-- A null pointer, an index outside of an array, an exception. -/
inductive Stop where
  | nullptr
  | index
  | exception
deriving DecidableEq

/-- The light bar and the siren are in use for an emergency. -/
def EmergencyDetails.InUse (a : EmergencyDetails) : Prop :=
  a.responseType = some ResponseType_emergency ∧ a.lightsUse = LightbarInUse_inUse ∧ a.sirenUse = SirenInUse_inUse

instance (a : EmergencyDetails) : Decidable a.InUse := inferInstanceAs (Decidable (_ ∧ _))

variable {ρ : Type*}

def IsBSMFromERV (msg : Bsm ρ) : Except Stop Bool :=
  match msg.regional, msg.partII with
  | some _, some (.SpecialVehicleExtensions vehicleAlerts :: _) =>
    match vehicleAlerts with
    | none => .error .nullptr
    | some vehicleAlerts => .ok (decide vehicleAlerts.InUse)
  | _, _ => .ok false

def pointText (p : Position3D) : Str :=
  CString.lit "<point><latitude>" ++ Printf.lld p.lat ++ CString.lit "</latitude><longitude>" ++ Printf.lld p.Long ++
    CString.lit "</longitude></point>"

/-- What is formatted into the array. -/
def requestText (bsmHex : Str) (v2xhubPort : Nat) (points : List Position3D) : Str :=
  CString.lit "<?xml version=\"1.0\" encoding=\"UTF-8\"?><BSMRequest><id>" ++ bsmHex ++ CString.lit "</id><v2xhubPort>" ++
    Printf.lld v2xhubPort ++ CString.lit "</v2xhubPort><route>" ++ points.flatMap pointText ++
    CString.lit "</route></BSMRequest>"

/-- `return xml_str`, with the array as it is. -/
def fromStack (xml_str : List UInt8) : Except Stop Str :=
  match CString.read xml_str with
  | none => .error .index
  | some s => .ok s

section
variable (encodeBSMHex : Bsm ρ → Option Str)

/-- `snprintf` leaves room for the terminator. -/
def constructERVBSMRequest (xml_str : List UInt8) (msg : Bsm ρ) (v2xhubPort : Nat) : Except Stop Str :=
  match encodeBSMHex msg with
  | none => .error .exception
  | some bsmHex => do
    if ← IsBSMFromERV msg then
      match msg.regional with
      | none => .error .nullptr
      | some [] => .error .index
      | some (.addGrpCarma none :: _) => .error .nullptr
      | some (.addGrpCarma (some points) :: _) =>
        .ok ((requestText bsmHex v2xhubPort (⟨msg.lat, msg.Long⟩ :: points)).take 19999)
      | some (_ :: _) => fromStack xml_str
    else fromStack xml_str

/-- The request that is sent, if one is. -/
def handleBSM (xml_str : List UInt8) (msg : Bsm ρ) (webPort : Nat) : Except Stop (Option Str) := do
  if ← IsBSMFromERV msg then some <$> constructERVBSMRequest encodeBSMHex xml_str msg webPort else return none

end

/-! ### What is to be forwarded -/

/-- The first part II element is one of a special vehicle in use, and the first regional extension has a route. -/
def OnRoute (msg : Bsm ρ) (points : List Position3D) : Prop :=
  (∃ a rest, msg.partII = some (.SpecialVehicleExtensions (some a) :: rest) ∧ a.InUse) ∧
    ∃ rest, msg.regional = some (.addGrpCarma (some points) :: rest)

def leaf (name : String) (s : Str) : Xml := .element (CString.lit name) [.text s]

def point (p : Position3D) : Xml :=
  .element (CString.lit "point") [leaf "latitude" (Printf.lld p.lat), leaf "longitude" (Printf.lld p.Long)]

def request (bsmHex : Str) (v2xhubPort : Nat) (points : List Position3D) : Xml :=
  .element (CString.lit "BSMRequest")
    [leaf "id" bsmHex, leaf "v2xhubPort" (Printf.lld v2xhubPort), .element (CString.lit "route") (points.map point)]

/-- Only what is present is read, a request is sent for the messages on a route and no others, it is a document with the
encoded message and the points, and for the other messages there is no request. -/
structure Forwards (encodeBSMHex : Bsm ρ → Option Str) (xml_str : List UInt8) (msg : Bsm ρ) (webPort : Nat) : Prop where
  handled : ∃ sent, handleBSM encodeBSMHex xml_str msg webPort = .ok sent ∧ (sent.isSome ↔ ∃ points, OnRoute msg points) ∧
    ∀ text ∈ sent, ∃ bsmHex points, encodeBSMHex msg = some bsmHex ∧ OnRoute msg points ∧
      Xml.Document text (request bsmHex webPort (⟨msg.lat, msg.Long⟩ :: points))
  empty : (¬ ∃ points, OnRoute msg points) → constructERVBSMRequest encodeBSMHex xml_str msg webPort = .ok []

variable {encodeBSMHex : Bsm ρ → Option Str} {xml_str : List UInt8} {msg : Bsm ρ} {webPort : Nat} {bsmHex : Str}
  {points points' : List Position3D}

theorem content_leaf {name : String} {s : Str} (hname : Xml.Name (CString.lit name)) (hs : ∀ c ∈ s, Xml.Literal c) :
    Xml.Content (Xml.startTag (CString.lit name) ++ s ++ Xml.endTag (CString.lit name)) [leaf name s] := .field hname hs

theorem content_point (p : Position3D) : Xml.Content (pointText p) [point p] := by
  have hlatitude := content_leaf (by decide : Xml.Name (CString.lit "latitude")) (Xml.literal_lld p.lat)
  have hlongitude := content_leaf (by decide : Xml.Name (CString.lit "longitude")) (Xml.literal_lld p.Long)
  have hpoint := Xml.Content.singleton (by decide : Xml.Name (CString.lit "point")) (hlatitude.append hlongitude)
  have htext : pointText p = Xml.startTag (CString.lit "point") ++ (Xml.startTag (CString.lit "latitude") ++ Printf.lld p.lat ++
      Xml.endTag (CString.lit "latitude") ++ (Xml.startTag (CString.lit "longitude") ++ Printf.lld p.Long ++
      Xml.endTag (CString.lit "longitude"))) ++ Xml.endTag (CString.lit "point") := by
    simp [pointText, Xml.startTag, Xml.endTag, CString.lit]
  rw [htext]
  exact hpoint

/-- The whole text of a request is a document, whatever the number of the points. -/
theorem document_requestText (hhex : ∀ c ∈ bsmHex, Xml.Literal c) :
    Xml.Document (requestText bsmHex webPort points) (request bsmHex webPort points) := by
  have hid := content_leaf (by decide : Xml.Name (CString.lit "id")) hhex
  have hport := content_leaf (by decide : Xml.Name (CString.lit "v2xhubPort")) (Xml.literal_lld webPort)
  have hroute := Xml.Content.singleton (by decide : Xml.Name (CString.lit "route"))
    (Xml.Content.flatMap (l := points) fun p _ => content_point p)
  have hrequest := Xml.Content.singleton (by decide : Xml.Name (CString.lit "BSMRequest")) (hid.append (hport.append hroute))
  refine ⟨_, ?_, hrequest⟩
  simp [requestText, Xml.declaration, Xml.startTag, Xml.endTag, CString.lit]

/-! ### What is forwarded -/

theorem OnRoute.unique (h : OnRoute msg points) (h' : OnRoute msg points') : points = points' := by
  obtain ⟨-, rest, hrest⟩ := h
  obtain ⟨-, rest', hrest'⟩ := h'
  have heq := Option.some.inj (hrest.symm.trans hrest')
  exact Option.some.inj (RegExtValue.addGrpCarma.inj (List.cons.inj heq).1)

theorem OnRoute.isBSMFromERV (h : OnRoute msg points) : IsBSMFromERV msg = .ok true := by
  obtain ⟨⟨a, rest, hpartII, hinUse⟩, rest', hregional⟩ := h
  simp only [IsBSMFromERV, hpartII, hregional, hinUse, decide_true]

theorem OnRoute.construct (h : OnRoute msg points) (hencode : encodeBSMHex msg = some bsmHex) :
    constructERVBSMRequest encodeBSMHex xml_str msg webPort =
      .ok ((requestText bsmHex webPort (⟨msg.lat, msg.Long⟩ :: points)).take 19999) := by
  unfold constructERVBSMRequest
  rw [hencode, h.isBSMFromERV]
  obtain ⟨-, rest, hregional⟩ := h
  simp only [hregional]
  rfl

theorem OnRoute.handle (h : OnRoute msg points) : handleBSM encodeBSMHex xml_str msg webPort =
    some <$> constructERVBSMRequest encodeBSMHex xml_str msg webPort := by
  unfold handleBSM
  rw [h.isBSMFromERV]
  rfl

theorem isBSMFromERV_eq_true (h : IsBSMFromERV msg = .ok true) :
    (∃ a rest, msg.partII = some (.SpecialVehicleExtensions (some a) :: rest) ∧ a.InUse) ∧ ∃ regs, msg.regional = some regs := by
  unfold IsBSMFromERV at h
  split at h
  · next regs vehicleAlerts rest hregional hpartII =>
    cases vehicleAlerts with
    | none => exact nomatch h
    | some a =>
      have hinUse : a.InUse := of_decide_eq_true (Except.ok.inj h)
      exact ⟨⟨a, rest, hpartII, hinUse⟩, regs, hregional⟩
  · exact nomatch Except.ok.inj h

/-- Without a route the request is what is on the stack, if it comes so far. -/
theorem construct_of_not_onRoute (h : ¬ ∃ points, OnRoute msg points) {text : Str}
    (hok : constructERVBSMRequest encodeBSMHex xml_str msg webPort = .ok text) : fromStack xml_str = .ok text := by
  unfold constructERVBSMRequest at hok
  cases hencode : encodeBSMHex msg with
  | none =>
    rw [hencode] at hok
    exact nomatch hok
  | some bsmHex =>
    rw [hencode] at hok
    cases hfrom : IsBSMFromERV msg with
    | error e =>
      rw [hfrom] at hok
      exact nomatch hok
    | ok b =>
      rw [hfrom] at hok
      cases b with
      | false => exact hok
      | true =>
        obtain ⟨huse, regs, hregional⟩ := isBSMFromERV_eq_true hfrom
        simp only [hregional] at hok
        cases regs with
        | nil => exact nomatch hok
        | cons reg regs =>
          cases reg with
          | NOTHING => exact hok
          | other => exact hok
          | addGrpCarma route =>
            cases route with
            | none => exact nomatch hok
            | some points => exact absurd ⟨points, huse, regs, hregional⟩ h

def IsHexDigit (c : UInt8) : Prop := c ∈ CString.lit "0123456789ABCDEFabcdef"

theorem IsHexDigit.literal {c : UInt8} (h : IsHexDigit c) : Xml.Literal c := by
  have hall : ∀ c ∈ CString.lit "0123456789ABCDEFabcdef", Xml.Literal c := List.all_iff_forall_prop.1 (by decide +kernel)
  exact hall c h

/-- An array that does not start with a terminator. -/
def dirtyStack : List UInt8 := 65 :: List.replicate 19999 0

theorem fromStack_dirtyStack : fromStack dirtyStack = .ok [65] := by
  have hread : CString.read dirtyStack = some [65] := by
    rw [dirtyStack, CString.read, if_neg (by decide), List.replicate_succ, CString.read, if_pos rfl]
    rfl
  rw [fromStack, hread]

/-- A message is handled as it is to be, whatever is on the stack, exactly if it is one on a route that can be encoded and
whose request fits the array. -/
theorem erv_forwarding (hhex : ∀ msg bsmHex, encodeBSMHex msg = some bsmHex → ∀ c ∈ bsmHex, IsHexDigit c) :
    (∀ xml_str, xml_str.length = 20000 → Forwards encodeBSMHex xml_str msg webPort) ↔
      ∃ bsmHex points, encodeBSMHex msg = some bsmHex ∧ OnRoute msg points ∧
        (requestText bsmHex webPort (⟨msg.lat, msg.Long⟩ :: points)).length < 20000 := by
  constructor
  · intro h
    have hdirty := h dirtyStack (by rw [dirtyStack, List.length_cons, List.length_replicate])
    have hroute : ∃ points, OnRoute msg points := by
      by_contra hnot
      have hstack := construct_of_not_onRoute hnot (hdirty.empty hnot)
      exact nomatch Except.ok.inj (fromStack_dirtyStack.symm.trans hstack)
    obtain ⟨points, hpoints⟩ := hroute
    obtain ⟨sent, hsent, -, htext⟩ := hdirty.handled
    cases hencode : encodeBSMHex msg with
    | none =>
      rw [hpoints.handle, constructERVBSMRequest, hencode] at hsent
      exact nomatch hsent
    | some bsmHex =>
      rw [hpoints.handle, hpoints.construct hencode] at hsent
      obtain rfl := Except.ok.inj hsent
      obtain ⟨bsmHex', points', hencode', hpoints', hdocument⟩ := htext _ rfl
      obtain rfl := Option.some.inj (hencode.symm.trans hencode')
      obtain rfl := hpoints.unique hpoints'
      refine ⟨bsmHex, points, rfl, hpoints, ?_⟩
      have hwhole := hdocument.unique (document_requestText fun c hc => (hhex msg bsmHex hencode c hc).literal)
      have hlength := congrArg List.length hwhole
      rw [List.length_take] at hlength
      omega
  · rintro ⟨bsmHex, points, hencode, hpoints, hlength⟩ xml_str -
    have hconstruct : constructERVBSMRequest encodeBSMHex xml_str msg webPort = _ := hpoints.construct hencode
    rw [List.take_of_length_le (by omega)] at hconstruct
    refine ⟨⟨_, by rw [hpoints.handle, hconstruct]; rfl, iff_of_true rfl ⟨points, hpoints⟩, ?_⟩,
      fun hnot => absurd ⟨points, hpoints⟩ hnot⟩
    intro text htext
    obtain rfl := Option.some.inj htext
    exact ⟨bsmHex, points, hencode, hpoints, document_requestText fun c hc => (hhex msg bsmHex hencode c hc).literal⟩

/-- The last `k` hexadecimal digits of a number. -/
def hexOf : Nat → Nat → Str
  | 0, _ => []
  | k + 1, n => hexOf k (n / 16) ++ [(CString.lit "0123456789ABCDEF").getD (n % 16) 48]

theorem isHexDigit_of_mem_hexOf {k n : Nat} {c : UInt8} (h : c ∈ hexOf k n) : IsHexDigit c := by
  have hdigit : ∀ d < 16, IsHexDigit ((CString.lit "0123456789ABCDEF").getD d 48) := by
    unfold IsHexDigit
    decide +kernel
  induction k generalizing n with
  | zero => exact absurd h List.not_mem_nil
  | succ k ih =>
    obtain h | h := List.mem_append.1 h
    · exact ih h
    · obtain rfl := List.mem_singleton.1 h
      exact hdigit _ (Nat.mod_lt _ (by decide))

/-- The message id 20 and the position from the south pole and the date line on, if it is on the globe. -/
def positionHex (msg : Bsm Unit) : Option Str :=
  if |msg.lat| ≤ 900000000 ∧ |msg.Long| ≤ 1799999999 then
    some (CString.lit "0014" ++ (hexOf 8 (msg.lat + 900000000).toNat ++ hexOf 8 (msg.Long + 1799999999).toNat))
  else none

theorem isHexDigit_of_mem_positionHex (msg : Bsm Unit) (bsmHex : Str) (h : positionHex msg = some bsmHex) :
    ∀ c ∈ bsmHex, IsHexDigit c := by
  unfold positionHex at h
  split at h
  · obtain rfl := Option.some.inj h
    have hid : ∀ c ∈ CString.lit "0014", IsHexDigit c := by
      unfold IsHexDigit
      exact List.all_iff_forall_prop.1 (by decide +kernel)
    intro c hc
    obtain hc | hc := List.mem_append.1 hc
    · exact hid c hc
    · obtain hc | hc := List.mem_append.1 hc <;> exact isHexDigit_of_mem_hexOf hc
  · exact nomatch h

def emergencyBsm (regional : Option (List RegExtValue)) : Bsm Unit :=
  ⟨389549922, -771492095, some [.SpecialVehicleExtensions (some ⟨2, 2, some 1⟩), .NOTHING], regional, ()⟩

theorem erv_forwarding_route : Forwards positionHex (List.replicate 20000 0)
    (emergencyBsm (some [.addGrpCarma (some [⟨389550000, -771490000⟩, ⟨389560000, -771480000⟩]), .other])) 22222 :=
  (erv_forwarding isHexDigit_of_mem_positionHex).2 ⟨_, _, rfl, ⟨⟨_, _, rfl, by decide⟩, _, rfl⟩, by decide +kernel⟩ _
    List.length_replicate

/-- An emergency vehicle without the CARMA extension: what is on the stack is sent to the cloud. -/
theorem erv_forwarding_stack : ¬ ∀ xml_str, xml_str.length = 20000 →
    Forwards positionHex xml_str (emergencyBsm (some [.other])) 22222 := by
  intro h
  obtain ⟨sent, hsent, hiff, -⟩ := (h dirtyStack (by rw [dirtyStack, List.length_cons, List.length_replicate])).handled
  have hencode : (positionHex (emergencyBsm (some [.other]))).isSome := by decide +kernel
  obtain ⟨bsmHex, hbsmHex⟩ := Option.isSome_iff_exists.1 hencode
  have hstack : handleBSM positionHex dirtyStack (emergencyBsm (some [.other])) 22222 = some <$> fromStack dirtyStack := by
    unfold handleBSM constructERVBSMRequest
    rw [hbsmHex]
    rfl
  rw [hstack, fromStack_dirtyStack] at hsent
  obtain rfl := Except.ok.inj hsent
  obtain ⟨points, -, rest, hrest⟩ := hiff.1 rfl
  exact nomatch (List.cons.inj (Option.some.inj hrest)).1

end V2xHub.ERVCloudForwardingPlugin
