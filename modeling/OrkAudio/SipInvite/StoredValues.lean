import OrkAudio.SipInvite.HeaderLines

/-! What `ExtractKeyValuesData` stores for a header and a key. -/

namespace OrkAudio.SipInvite

open Lib

/-! ### What is said -/

section

variable {name key payload behind memory text rest more : Bytes} {pos : Nat}

/-! ### Values up to a NUL -/

end

end OrkAudio.SipInvite
