/-!
# Messages and replies

What a chat transport hands in, and what it is asked to deliver.
-/

namespace ChatCommand

/-- A chat message. -/
structure Message where
  /-- The author. -/
  sender : String
  /-- The channel it was posted in; none for a private message. -/
  channel : Option String := none
  /-- The text, sigil included. -/
  text : String
deriving DecidableEq, Repr

/-- Where a plain reply goes: the channel, or the author of a private message. -/
def Message.origin (m : Message) : String :=
  m.channel.getD m.sender

/-- How a reply is delivered. -/
inductive Delivery where
  /-- Back where the message came from. -/
  | origin
  /-- As a notice to the author. -/
  | notice
  /-- As a private message to the author. -/
  | query
deriving DecidableEq, Repr

/-- The name of the kind of delivery. -/
def Delivery.name : Delivery → String
  | origin => "reply"
  | notice => "notice"
  | query => "query"

/-- A line of text to deliver. -/
structure Reply where
  delivery : Delivery
  /-- The channel or user it goes to. -/
  recipient : String
  text : String
deriving DecidableEq, Repr

namespace Reply

/-- A reply to where the message came from. -/
def toOrigin (m : Message) (text : String) : Reply :=
  { delivery := .origin, recipient := m.origin, text }

/-- A notice to the author of the message. -/
def notice (m : Message) (text : String) : Reply :=
  { delivery := .notice, recipient := m.sender, text }

/-- A private message to the author of the message. -/
def query (m : Message) (text : String) : Reply :=
  { delivery := .query, recipient := m.sender, text }

end Reply

end ChatCommand
