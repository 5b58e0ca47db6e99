import Gearsonic.Common.MathUtils
import Gearsonic.Numeric.KinematicTree

/-!
# The skeleton

`smpl_skeleton.hpp`: the rest joints and the tree of the 55-joint body, the 24 joints read back,
and the tree of the 24-joint operator stream. A parent of -1 is `none`.
-/

namespace Gearsonic

namespace SmplFk

-- Every joint number carries one of these.
local instance neZero_twentyFour : NeZero 24 := ⟨by decide⟩
local instance neZero_fiftyFive : NeZero 55 := ⟨by decide⟩
local instance neZero_seven : NeZero 7 := ⟨by decide⟩

/-- The body joints of the two trees have the same numbers. -/
theorem bodyJoint_lt {i : Fin 55} (h : i.val ≤ 21) : i.val < 24 :=
  Nat.lt_of_le_of_lt h (by decide)

def kSmplXParents : Fin 55 → Option (Fin 55) := ![
  none, some 0, some 0, some 0, some 1, some 2, some 3, some 4, some 5, some 6, some 7, some 8,
  some 9, some 9, some 9, some 12, some 13, some 14, some 16, some 17, some 18, some 19, some 15,
  some 15, some 15, some 20, some 25, some 26, some 20, some 28, some 29, some 20, some 31,
  some 32, some 20, some 34, some 35, some 20, some 37, some 38, some 21, some 40, some 41,
  some 21, some 43, some 44, some 21, some 46, some 47, some 21, some 49, some 50, some 21,
  some 52, some 53]

/-- Metres. -/
def kSmplXRestJoints {K : Type} [Field K] : Fin 55 → Vec3 K := ![
  ![0.00312326057, -0.351407468, 0.0120365508],
  ![0.0613126531, -0.444170952, -0.0139646353],
  ![-0.0601442158, -0.455315471, -0.0092138201],
  ![0.000360562059, -0.241516858, -0.0155810807],
  ![0.11600811, -0.822924376, -0.0233606994],
  ![-0.104354173, -0.817695558, -0.0260377023],
  ![0.00980826095, -0.109663606, -0.0215210654],
  ![0.0725546628, -1.22598386, -0.055236645],
  ![-0.0889373645, -1.22842336, -0.0462299734],
  ![-0.00152215292, -0.0574284494, 0.00692583201],
  ![0.119811967, -1.2839812, 0.0629796833],
  ![-0.127749771, -1.28675175, 0.0728190243],
  ![-0.0136866113, 0.107738607, -0.0246895105],
  ![0.0448420048, 0.0275152735, -0.000294650905],
  ![-0.0492170788, 0.0269102231, -0.00647406979],
  ![0.0110968733, 0.268190414, -0.00395224523],
  ![0.164081037, 0.0852432996, -0.0157555901],
  ![-0.151794821, 0.0804346725, -0.0191425979],
  ![0.41820389, 0.0130927814, -0.0582144447],
  ![-0.422944367, 0.0439421907, -0.0456096828],
  ![0.670190632, 0.0363140106, -0.060686525],
  ![-0.672211826, 0.0394096449, -0.0609348677],
  ![-0.00466776267, 0.267670691, -0.00959140249],
  ![0.0315992832, 0.310832113, 0.0621951744],
  ![-0.0315998755, 0.310831934, 0.0621943437],
  ![0.772092462, 0.02762587, -0.041335389],
  ![0.804040849, 0.0298441313, -0.0383249447],
  ![0.82658577, 0.0274940506, -0.0382703729],
  ![0.779588163, 0.0299863424, -0.0646673366],
  ![0.81019938, 0.0307937432, -0.0686899945],
  ![0.833714783, 0.028784994, -0.07280422],
  ![0.754237473, 0.0217746813, -0.104436137],
  ![0.769708216, 0.0206431001, -0.116435573],
  ![0.785241723, 0.0189785324, -0.127652526],
  ![0.767634928, 0.0270463768, -0.0880311728],
  ![0.795681715, 0.0285318363, -0.0932971463],
  ![0.818503499, 0.027073551, -0.100391433],
  ![0.710826397, 0.0183372851, -0.0350756459],
  ![0.727842093, 0.0193130989, -0.0100975055],
  ![0.748365223, 0.0141535439, 0.005425571],
  ![-0.772092402, 0.0276267808, -0.0413349308],
  ![-0.804040551, 0.0298446734, -0.0383240953],
  ![-0.826585472, 0.0274952874, -0.0382686853],
  ![-0.779588223, 0.0299876984, -0.0646686926],
  ![-0.81019938, 0.0307951719, -0.0686915368],
  ![-0.833714902, 0.0287858527, -0.0728055611],
  ![-0.754238546, 0.0217752066, -0.104437806],
  ![-0.769708991, 0.0206431337, -0.116436549],
  ![-0.785242379, 0.0189783983, -0.127652839],
  ![-0.767635286, 0.027047703, -0.0880335942],
  ![-0.795681715, 0.0285329074, -0.0932995006],
  ![-0.818503737, 0.0270741172, -0.100392245],
  ![-0.710824966, 0.0183352213, -0.0350735225],
  ![-0.727840304, 0.0193113182, -0.0100959428],
  ![-0.748365939, 0.0141541166, 0.00542560499]]

/-- The body joints and the two thumb tips. -/
def kSmplOutputJoints : Fin 24 → Fin 55 := ![
  0, 1, 2, 3, 4, 5, 6, 7, 8, 9, 10, 11, 12, 13, 14, 15, 16, 17, 18, 19, 20, 21, 39, 54]

def kSmplStreamParents : Fin 24 → Option (Fin 24) := ![
  none, some 0, some 0, some 0, some 1, some 2, some 3, some 4, some 5, some 6, some 7, some 8,
  some 9, some 9, some 9, some 12, some 13, some 14, some 16, some 17, some 18, some 19, some 20,
  some 22]

/-! ## The tree -/

theorem kSmplXParents_lt (i : Fin 55) : ∀ p ∈ kSmplXParents i, p < i := by
  revert i
  decide

/-- A parent comes before its children. -/
def smplTree : KinematicTree.Tree 55 where
  parent := kSmplXParents
  parent_lt {i p} h := kSmplXParents_lt i p h

end SmplFk

end Gearsonic
