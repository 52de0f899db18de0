import Garlemald.Library.Layout
import Garlemald.Packets.Groups

/-!
The packets that list what a search found, and the friends and the blocked players of a
player.
-/

namespace Garlemald.Packets

open Library Common

def OP_SEND_BLACKLIST : UInt16 := 0x01CB
def OP_SEND_FRIENDLIST : UInt16 := 0x01CE
def OP_ITEM_SEARCH_RESULTS_BODY : UInt16 := 0x01D8
def OP_PLAYER_SEARCH_INFO_RESULT : UInt16 := 0x01DF
def OP_PLAYER_SEARCH_COMMENT_RESULT : UInt16 := 0x01E0

structure ItemSearchResult where
  uniqueId : UInt64
  itemId : UInt32
  quantity : UInt32
  price : UInt32
  quality : UInt8
  sellerName : Text
  retainerName : Text
  location : Text

structure PlayerSearchResult where
  playerId : UInt64
  name : Text
  comment : Text
  currentClass : UInt8
  currentLevel : UInt8
  zoneId : UInt32
  online : Bool

def itemSearchParts (r : ItemSearchResult) : List Bytes :=
  [u64Bytes r.uniqueId, u32Bytes r.itemId, u32Bytes r.quantity, u32Bytes r.price, [r.quality],
    [0], u16Bytes 0, paddedField r.sellerName 0x20, paddedField r.retainerName 0x20,
    paddedField r.location 0x20]

def playerInfoParts (r : PlayerSearchResult) : List Bytes :=
  [u64Bytes r.playerId, paddedField r.name 0x20, [r.currentClass], [r.currentLevel],
    [if r.online then 1 else 0], [0], u32Bytes r.zoneId]

def playerCommentParts (r : PlayerSearchResult) : List Bytes :=
  [u64Bytes r.playerId, paddedField r.name 0x20, paddedField r.comment 0x80]

def blacklistParts (name : Text) : List Bytes := [paddedField name 0x20]

def friendParts (friend : Int64 × Text) : List Bytes :=
  [u64Bytes friend.1.toUInt64, paddedField friend.2 0x20]

def writeParts {α : Type} (parts : α → List Bytes) (x : α) : Writer Unit :=
  (parts x).forM Writer.all

-- The clock gives the time at which the packet from an offset is made.
variable (clock : ℕ → UInt32) (actorId : UInt32)

def buildItemSearchResultsBody : Rung ItemSearchResult SubPacket :=
  headedRung (body 0x228) 8 (fun max => [UInt8.ofNat max] ++ ([0] ++ u16Bytes 0))
    (writeParts itemSearchParts)
    fun offset => .new (clock offset) OP_ITEM_SEARCH_RESULTS_BODY actorId

section Players

variable (searchSessionId : UInt32) (resultCode : UInt8)

def playerSearchHeader (max : ℕ) : Bytes :=
  u32Bytes searchSessionId ++ ([resultCode] ++ ([UInt8.ofNat max] ++ u16Bytes 0))

def buildPlayerSearchInfoResult : Rung PlayerSearchResult SubPacket :=
  headedRung (body 0x3C8) 8 (playerSearchHeader searchSessionId resultCode)
    (writeParts playerInfoParts)
    fun offset => .new (clock offset) OP_PLAYER_SEARCH_INFO_RESULT actorId

def buildPlayerSearchCommentResult : Rung PlayerSearchResult SubPacket :=
  headedRung (body 0x288) 4 (playerSearchHeader searchSessionId resultCode)
    (writeParts playerCommentParts)
    fun offset => .new (clock offset) OP_PLAYER_SEARCH_COMMENT_RESULT actorId

end Players

def buildSendBlacklist : Rung Text SubPacket :=
  headedRung (body 0x686) 48 (fun max => u16Bytes (.ofNat max) ++ u16Bytes 0)
    (writeParts blacklistParts) fun offset => .new (clock offset) OP_SEND_BLACKLIST actorId

def buildSendFriendlist : Rung (Int64 × Text) SubPacket :=
  headedRung (body 0x686) 48 (fun max => u16Bytes (.ofNat max) ++ u16Bytes 0)
    (writeParts friendParts) fun offset => .new (clock offset) OP_SEND_FRIENDLIST actorId

end Garlemald.Packets
