import ChainLens.Proofs.Web.Related
import ChainLens.Web.Rehearsal

/-!
Requests to a network played from a table. What arrives is recorded, but the answers never change,
so whatever is read off them is what one reads off the table.
-/

namespace ChainLens.Web

def plainBody (text : String) : Bytes := text.toList.map fun c => UInt8.ofNat c.toNat

def Rehearsal.serve (pages : List (String × Bytes)) : Rehearsal where
  online := true
  answers :=
    pages.map fun (url, body) => (url, { status := 200, body, drops := false, truncated := false })
  cookie := none
  arrived := []

/-- The answers that a rehearsal gives now, as a network of its own. -/
def Rehearsal.still (r : Rehearsal) : Wire Id where
  deliver := r.reply
  readCookie := r.cookie

/-- Making a note of a request changes no answer. -/
theorem Rehearsal.still_record (r : Rehearsal) (request : Request) :
    (r.record request).still = r.still := by
  unfold record
  split
  · rfl
  · rfl

def Wire.ByUrl (table : Wire Id) : Prop :=
  ∀ a b : Request, a.url = b.url → table.deliver a = table.deliver b

theorem Rehearsal.still_by_url (r : Rehearsal) : r.still.ByUrl := by
  intro a b hab
  simp only [still, reply, hab]

/-- With every rehearsal that answers as a table does, a computation comes to what it comes to with
the table, and the rehearsal still answers so. -/
def Rehearsal.playing (table : Wire Id) : MonadRelation (StateM Rehearsal) Id where
  rel x y := ∀ r : Rehearsal, r.still = table → ∃ r' : Rehearsal, Id.run (x.run r) =
    (Id.run y, r') ∧ r'.still = table
  pure a r hr := ⟨r, rfl, hr⟩
  bind := by
    intro α β x y f g hx hf r hr
    obtain ⟨r', hrun, hr'⟩ := hx r hr
    obtain ⟨r'', hrest, hr''⟩ := hf (Id.run y) r' hr'
    refine ⟨r'', ?_, hr''⟩
    rw [StateT.run_bind, Id.run_bind, hrun, hrest]
    rfl

/-- A network that notes requests answers as one that does not. -/
theorem Rehearsal.related (table : Wire Id) : Rehearsal.wire.Related (playing table) table where
  deliver request := by
    rintro r rfl
    exact ⟨r.record request, rfl, r.still_record request⟩
  readCookie := by
    rintro r rfl
    exact ⟨r, rfl, rfl⟩

end ChainLens.Web
