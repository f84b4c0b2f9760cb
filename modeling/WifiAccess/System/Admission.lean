import WifiAccess.Server.CardList
import WifiAccess.System.Registry

/-! Who gets in between two boots. The card list is what the boot has loaded, and the user file
what the commands have made of it since: the door opens for a user of both. -/

namespace WifiAccess

open ServerProg DoorProg DoorState

/-! ## The card list -/

section Commands

variable {list : List CardLink} {server : Server}

end Commands

namespace Station

variable {lib : CardSearch} {stationAddr : Image 6} {station next : Station}

end Station

end WifiAccess
