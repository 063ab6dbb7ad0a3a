import Vivarium.Proofs.Books
import Vivarium.Proofs.Ground

/-!
# Token accounting

The books of a scene are its ground, the hands of its residents and its surfaces.
They balance from the blank scene on: each move is one entry or none, since
walking, coming and going leave the ground alone.
-/
namespace Vivarium

namespace Scene

/-- The books of a scene balance. -/
def InBalance (scene : Scene) : Prop :=
  Balanced scene.grid.size scene.capacity (ground scene.grid scene.residents)
    (hands scene.residents) scene.surfaces

/-- A scene whose tokens are accounted for. -/
structure Accounted (scene : Scene) : Prop where
  exclusive : Exclusive scene.grid scene.residents
  furnished : scene.Furnished
  slotted : scene.Slotted
  balanced : scene.InBalance

variable {admits : Scene → Int → Prop} {scene next : Scene} {slot : Nat} {body : Body}

/-- What is carried is carried in a slot of the pool. -/
theorem Accounted.within (accounted : scene.Accounted) {token : Token}
    (carries : hands scene.residents slot = some token) : slot < scene.capacity := by
  obtain ⟨body, resident, -⟩ := Option.bind_eq_some_iff.mp carries
  exact accounted.slotted slot body resident

theorem InBalance.of_eq {size capacity : Nat} {lying carried : Nat → Option Token}
    {surfaces : List Surface} (balanced : Balanced size capacity lying carried surfaces)
    (onGround : ground next.grid next.residents = lying)
    (inHands : hands next.residents = carried) (sameSize : next.grid.size = size)
    (sameCapacity : next.capacity = capacity) (same : next.surfaces = surfaces) :
    next.InBalance := by
  subst onGround inHands sameSize sameCapacity same
  exact balanced

/-! ### Residents -/

/-- A resident that stays on its cell with what it carries changes nothing. -/
theorem Accounted.seat (accounted : scene.Accounted) (resident : scene.residents slot = some body)
    (after : Body) (offset : after.offset = body.offset) (beneath : after.beneath = body.beneath)
    (packet : after.packet = body.packet) : (scene.seat slot after).Accounted where
  exclusive := accounted.exclusive.reseat resident after offset beneath
  furnished := ⟨accounted.furnished.length, accounted.furnished.own⟩
  slotted := accounted.slotted.update resident after
  balanced := InBalance.of_eq accounted.balanced (ground_reseat resident beneath)
    (hands_reseat resident packet) rfl rfl rfl

theorem Accounted.earn (accounted : scene.Accounted) (resident : scene.residents slot = some body)
    (amount : Int) : (scene.earn slot body amount).Accounted := by
  have seated := accounted.seat resident { body with energy := body.energy + amount } rfl rfl rfl
  exact ⟨seated.exclusive, ⟨seated.furnished.length, seated.furnished.own⟩, seated.slotted,
    seated.balanced⟩

/-- A newborn brings no token and stands on none. -/
theorem Accounted.receive (accounted : scene.Accounted) (newborn : scene.Newborn slot body)
    (code : Genome) : (scene.receive slot body code).Accounted where
  exclusive := newborn.exclusive accounted.exclusive
  furnished := ⟨accounted.furnished.length, accounted.furnished.own⟩
  slotted := accounted.slotted.put newborn.inside body
  balanced := by
    have onGround := ground_occupy accounted.exclusive newborn.vacant newborn.free.1
      newborn.free.isOrganism_eq_false (newborn.beneath.trans newborn.free.2.symm)
    have nothing : hands scene.residents slot = none := by simp [hands, newborn.vacant]
    have inHands : hands (Function.update scene.residents slot (some body)) =
        hands scene.residents := by
      rw [hands_update, Option.bind_some, newborn.packet, ← nothing, Function.update_eq_self]
    exact InBalance.of_eq accounted.balanced onGround inHands (scene.grid.size_set _ _) rfl rfl

/-! ### Departures -/

theorem Departure.balanced (departure : Departure scene slot body next)
    (accounted : scene.Accounted) (resident : scene.residents slot = some body) :
    next.InBalance := by
  have inside := accounted.slotted slot body resident
  have onGround := ground_vacate accounted.exclusive resident
  have inHands : hands (scene.vacate slot body).residents =
      Function.update (hands scene.residents) slot none := hands_update none
  have carries : hands scene.residents slot = body.packet := by simp [hands, resident]
  have size : (scene.vacate slot body).grid.size = scene.grid.size := scene.grid.size_set _ _
  cases departure with
  | emptyHanded nothing =>
    rw [nothing] at carries
    rw [← carries, Function.update_eq_self] at inHands
    exact InBalance.of_eq accounted.balanced onGround inHands size rfl rfl
  | homeless packet carried unknown =>
    -- A packet of no surface would be lost unseen, but there is none.
    rw [carried] at carries
    have known := (accounted.balanced.carried slot packet carries).known
    rw [List.getElem?_eq_none_iff] at unknown
    omega
  | lost packet surface carried own =>
    rw [carried] at carries
    exact InBalance.of_eq (accounted.balanced.lose own inside carries rfl) onGround inHands size rfl
      rfl
  | restored packet surface offset carried own free =>
    rw [carried] at carries
    have within : offset < scene.grid.size := size ▸ free.1
    have vacant : ground scene.grid scene.residents offset = none := by
      rw [← onGround]
      exact ground_of_free free
    have laid : ground ((scene.vacate slot body).grid.set offset (.token packet))
        (scene.vacate slot body).residents =
          Function.update (ground scene.grid scene.residents) offset (some packet) := by
      rw [ground_paint free.1 rfl, ← onGround]
      rfl
    exact InBalance.of_eq (accounted.balanced.lower own within inside vacant carries rfl) laid
      inHands ((Grid.size_set _ _ _).trans size) rfl rfl

/-! ### Moves -/

/-- Each move is one entry in the books, or none. -/
theorem Move.inBalance (move : Move admits scene next) (accounted : scene.Accounted) :
    next.InBalance := by
  have balanced := accounted.balanced
  -- An entry is made when a token is eaten, lifted, lowered, fused, dropped or shifted.
  cases move with
  | start | stop | opened | closed => exact balanced
  | pay slot body amount acting resident cost => exact (accounted.earn resident _).balanced
  | walk slot body target acting resident inside noOrganism passable =>
    have size : (scene.grid.moveOrganism body.offset target slot body.beneath).size =
        scene.grid.size := (Grid.size_set _ _ _).trans (scene.grid.size_set _ _)
    exact InBalance.of_eq balanced (ground_walk accounted.exclusive resident inside noOrganism)
      (hands_reseat resident rfl) size rfl rfl
  | graze slot body target token surface found tokens acting resident own shown kind erased =>
    have inside := inside_of_token shown
    have isOwn : token.kind = energyKind := kind.trans (accounted.furnished.own _ _ own).1
    have eaten := balanced.use own inside (ground_of_token shown) isOwn erased
    exact InBalance.of_eq eaten (ground_exchange resident rfl inside rfl)
      (hands_reseat resident rfl) (scene.grid.size_set _ _) rfl rfl
  | bite slot body victim prey taken acting resident other caught nonneg left =>
    have bitten := accounted.seat caught { prey with energy := prey.energy - taken } rfl rfl rfl
    have fed := bitten.seat (update_beside other resident _)
      { body with energy := body.energy + taken } rfl rfl rfl
    exact fed.balanced
  | devour slot body victim prey next acting resident other caught departure =>
    have emptied := accounted.seat caught { prey with energy := 0 } rfl rfl rfl
    have fed := emptied.seat (update_beside other resident _)
      { body with energy := body.energy + prey.energy } rfl rfl rfl
    refine departure.balanced fed ?_
    simp [seat, Function.update_of_ne other]
  | bear slot body fresh child code acting resident share newborn identity parent =>
    exact ((accounted.earn resident _).receive (newborn.earn resident _) code).balanced
  | spawn fresh body code idle newborn identity orphan admitted =>
    exact (accounted.receive newborn code).balanced
  | pickUp slot body target kind token surface found tokens acting resident handsFree own shown
      isOwn erased =>
    have inside := inside_of_token shown
    have nothing : hands scene.residents slot = none := by simp [hands, resident, handsFree]
    have lifted := balanced.lift own inside (accounted.slotted slot body resident)
      (ground_of_token shown) (isOwn.trans (accounted.furnished.own _ _ own).1) nothing erased
    exact InBalance.of_eq lifted (ground_exchange resident rfl inside rfl)
      (hands_update _) (scene.grid.size_set _ _) rfl rfl
  | putDown slot body target packet surface acting resident carried own free =>
    have carries : hands scene.residents slot = some packet := by simp [hands, resident, carried]
    have lowered := balanced.lower own free.1 (accounted.slotted slot body resident)
      (ground_of_free free) carries rfl
    exact InBalance.of_eq lowered (ground_exchange resident rfl free.1 rfl)
      (hands_update _) (scene.grid.size_set _ _) rfl rfl
  | mix slot body target packet lying surface atoms acting resident carried energy own shown isOwn
      capped =>
    have inside := inside_of_token shown
    have carries : hands scene.residents slot = some packet := by simp [hands, resident, carried]
    have lyingKind : lying.kind = energyKind := isOwn.trans (accounted.furnished.own _ _ own).1
    let merged : Token := { kind := lying.kind, atoms }
    have fused : Balanced _ _ (Function.update _ target (some merged)) _ _ :=
      balanced.fuse own inside (accounted.slotted slot body resident) (ground_of_token shown)
        lyingKind carries energy lyingKind capped
    exact InBalance.of_eq fused (ground_exchange resident rfl inside rfl)
      (hands_update _) (scene.grid.size_set _ _) rfl rfl
  | drop offset kind atoms surface idle own room free positive light admitted =>
    let token : Token := { kind := surface.kind, atoms }
    have added : Balanced _ _ (Function.update _ offset (some token)) _ _ :=
      balanced.add own free.1 (ground_of_free free) (accounted.furnished.own _ _ own).1 positive
        light room
    exact InBalance.of_eq added (ground_paint free.1 rfl) rfl (scene.grid.size_set _ _) rfl rfl
  | shift kind surface origin target token found tokens idle own shown isOwn free erased =>
    have inside := inside_of_token shown
    have shifted := balanced.shift own inside free.1 (ground_of_token shown)
      (isOwn.trans (accounted.furnished.own _ _ own).1) (ground_of_free free) erased
    have cleared : ground (scene.grid.set origin .empty) scene.residents =
        Function.update (ground scene.grid scene.residents) origin none := ground_paint inside rfl
    have within : target < (scene.grid.set origin .empty).size := by
      rw [scene.grid.size_set]
      exact free.1
    have laid : ground ((scene.grid.set origin .empty).set target (.token token))
        scene.residents = Function.update _ target (some token) := ground_paint within rfl
    rw [cleared] at laid
    exact InBalance.of_eq shifted laid rfl ((Grid.size_set _ _ _).trans (scene.grid.size_set _ _))
      rfl rfl
  | wait kind surface waited own => exact balanced.wait own waited
  | depart slot body next resident departure => exact departure.balanced accounted resident

theorem Move.accounted (move : Move admits scene next) (accounted : scene.Accounted) :
    next.Accounted where
  exclusive := move.exclusive accounted.exclusive
  furnished := move.furnished accounted.furnished
  slotted := move.slotted accounted.slotted
  balanced := move.inBalance accounted

theorem Moves.accounted (moves : Moves admits scene next) (accounted : scene.Accounted) :
    next.Accounted :=
  moves.preserve Accounted (fun move => move.accounted) accounted

/-! ### Exact counters -/

variable {kind : Nat} {surface : Surface} {token : Token}

/-- Nothing is cut off when a token that lies or is carried is forgotten. -/
theorem Accounted.forget_exact (accounted : scene.Accounted)
    (own : scene.surfaces[kind]? = some surface) (isOwn : token.kind = kind)
    (here : (∃ offset, ground scene.grid scene.residents offset = some token) ∨
      ∃ slot, hands scene.residents slot = some token) :
    (surface.forget token).live + 1 = surface.live ∧
      (surface.forget token).atoms + token.atoms = surface.atoms := by
  have audited := accounted.balanced.own kind surface own
  have counted : 1 ≤ surface.live ∧ token.atoms ≤ surface.atoms := by
    rcases here with ⟨offset, lies⟩ | ⟨slot, carries⟩
    · exact audited.lying_le (inside_of_ground lies) (ofKind_eq_some_iff.mpr ⟨lies, isOwn⟩)
    · have held := audited.carried_le (accounted.within carries)
        (ofKind_eq_some_iff.mpr ⟨carries, isOwn⟩)
      omega
  simp only [Surface.forget]
  omega

/-- Nor is anything cut off when a token that is carried is fused into one that lies. -/
theorem Accounted.merge_exact (accounted : scene.Accounted) {offset lost : Nat} {under : Token}
    (own : scene.surfaces[kind]? = some surface)
    (lies : ground scene.grid scene.residents offset = some under) (underOwn : under.kind = kind)
    (carries : hands scene.residents slot = some token) (isOwn : token.kind = kind)
    (part : lost ≤ under.atoms + token.atoms) :
    surface.live - 1 + 1 = surface.live ∧ surface.atoms - lost + lost = surface.atoms := by
  have audited := accounted.balanced.own kind surface own
  have held := audited.carried_le (accounted.within carries)
    (ofKind_eq_some_iff.mpr ⟨carries, isOwn⟩)
  have weights := total_clear (inside_of_ground lies)
    (ofKind_eq_some_iff.mpr ⟨lies, underOwn⟩) Token.atoms
  omega

/-- In a blank scene there is nothing to count. -/
theorem Blank.accounted (blank : scene.Blank) : scene.Accounted where
  exclusive := .of_blank blank.cells blank.nobody
  furnished := blank.furnished
  slotted := blank.slotted
  balanced := by
    have bare : ∀ offset, ground scene.grid scene.residents offset = none := by
      simp [ground, blank.cells]
    have idle : ∀ slot, hands scene.residents slot = none := by simp [hands, blank.nobody]
    refine ⟨fun kind surface own => ?_, fun offset token lies => ?_, fun slot token carries => ?_⟩
    · obtain ⟨config, -, rfl⟩ := blank.surface_eq own
      have noneLies : ∀ offset, ofKind kind (ground scene.grid scene.residents) offset = none :=
        fun offset => ofKind_eq_none (bare offset)
      have noneCarried : ∀ slot, ofKind kind (hands scene.residents) slot = none :=
        fun slot => ofKind_eq_none (idle slot)
      refine ⟨TokenSet.consistent_empty, ?_, ?_, ?_, Nat.zero_le _⟩
      · simp [Surface.create, TokenSet.toList_empty, noneLies]
      · rw [total_empty _ noneLies, total_empty _ noneCarried]
        rfl
      · rw [total_empty _ noneLies, total_empty _ noneCarried]
        rfl
    · rw [bare] at lies
      cases lies
    · rw [idle] at carries
      cases carries

end Scene

/-- Terrain is accounted for before it is populated. -/
theorem World.Founded.accounted {ρ : Type} {config : Config} {blank : Scene} {terrain : World ρ}
    (founded : World.Founded config blank terrain) : terrain.scene.Accounted :=
  founded.laid.accounted founded.empty.accounted

end Vivarium
