import PaymentBooking.Message.Basic

/-! # Where messages keep their fields

Messages are JSON documents with the element names of ISO 20022. Each family keeps the fields of
its first transaction at places of its own.
-/

namespace PaymentBooking

abbrev Place := List String

/-- The places of the fields of a family; all but the first are within the transaction. -/
structure Layout where
  transaction : Place
  amount : Place
  endToEndId : Place
  partnerIban : Place
  partnerName : Place
  remittance : Place
  /-- The direction of an entry that is not given one. -/
  direction : Direction

def MessageKind.layout : MessageKind → Layout
  | .pacs008 =>
    { transaction := ["FIToFICstmrCdtTrf", "CdtTrfTxInf", "0"]
      amount := ["IntrBkSttlmAmt"]
      endToEndId := ["PmtId", "EndToEndId"]
      partnerIban := ["CdtrAcct", "Id", "IBAN"]
      partnerName := ["Dbtr", "Nm"]
      remittance := ["RmtInf", "Ustrd"]
      direction := .credit }
  | .pacs004 =>
    { transaction := ["PmtRtr", "TxInf", "0"]
      amount := ["RtrdIntrBkSttlmAmt"]
      endToEndId := ["OrgnlEndToEndId"]
      partnerIban := ["OrgnlTxRef", "DbtrAcct", "Id", "IBAN"]
      partnerName := ["OrgnlTxRef", "Cdtr", "Nm"]
      remittance := ["OrgnlTxRef", "RmtInf", "Ustrd"]
      direction := .credit }
  | .pain001 =>
    { transaction := ["Document", "PmtInf", "0", "CdtTrfTxInf", "0"]
      amount := ["Amt", "InstdAmt"]
      endToEndId := ["PmtId", "EndToEndId"]
      partnerIban := ["CdtrAcct", "Id", "IBAN"]
      partnerName := ["Cdtr", "Nm"]
      remittance := ["RmtInf", "Ustrd"]
      direction := .debit }
  | .camt056 =>
    { transaction := ["FIToFIPmtCxlReq", "Undrlyg", "0", "TxInf", "0"]
      amount := ["OrgnlIntrBkSttlmAmt"]
      endToEndId := ["OrgnlEndToEndId"]
      partnerIban := ["OrgnlTxRef", "DbtrAcct", "Id", "IBAN"]
      partnerName := ["OrgnlTxRef", "Dbtr", "Nm"]
      remittance := ["OrgnlTxRef", "RmtInf", "Ustrd"]
      direction := .debit }

end PaymentBooking
