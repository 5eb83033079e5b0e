import Devnet.Text.RunTable

namespace Devnet.Url.Domain

/-- Each composed character with the two it consists of. -/
def compositeTriples : String :=
  "68,2p,lcP69,2p,ldP6a,2p,leP6b,2p,lfP6c,2p,lkP6d,2p,lmP6f,2r,mfP6g,2t,lcP6h,2t,ldP6i,2t,leP
  6j,2t,lkP6k,2x,lcP6l,2x,ldP6m,2x,leP6n,2x,lkP6p,32,lfP6q,33,lcP6r,33,ldP6s,33,leP6t,33,lfP
  6u,33,lkP6x,39,lcP6y,39,ldP6z,39,leP70,39,lkP71,3d,ldP73,3d,lkP75,2p,lgP77,2p,liP79,2p,mgP
  7b,2r,ldP7d,2r,leP7f,2r,ljP7h,2r,loP7j,2s,loP7n,2t,lgP7p,2t,liP7r,2t,ljP7t,2t,mgP7v,2t,loP
  7x,2v,leP7z,2v,liP81,2v,ljP83,2v,mfP85,2w,leP89,2x,lfP8b,2x,lgP8d,2x,liP8f,2x,mgP8l,2y,leP
  8n,2z,mfP8q,30,ldP8s,30,mfP8u,30,loP90,32,ldP92,32,mfP94,32,loP99,33,lgP9b,33,liP9d,33,lnP
  9h,36,ldP9j,36,mfP9l,36,loP9n,37,ldP9p,37,leP9r,37,mfP9t,37,loP9v,38,mfP9x,38,loPa1,39,lfP
  a3,39,lgPa5,39,liPa7,39,lmPa9,39,lnPab,39,mgPad,3b,lePaf,3d,lePai,3e,ldPak,3e,ljPam,3e,loP
  bl,33,m3Pc0,39,m3Pcu,2p,loPcw,2x,loPcy,33,loPd0,39,loPd2,70,lgPd4,70,ldPd6,70,loPd8,70,lcP
  db,6c,lgPdd,fb,lgPdf,6e,lgPdj,2v,loPdl,2z,loPdn,33,mgPdp,dn,lgPdr,ia,loPds,2y,loPdx,2v,ldP
  e1,32,lcPe3,6d,ldPe5,6e,ldPe7,6w,ldPe9,2p,lrPeb,2p,ltPed,2t,lrPef,2t,ltPeh,2x,lrPej,2x,ltP
  el,33,lrPen,33,ltPep,36,lrPer,36,ltPet,39,lrPev,39,ltPex,37,mePez,38,mePf3,2w,loPfb,2p,ljP
  fd,2t,mfPff,6u,lgPfh,6t,lgPfj,33,ljPfl,fj,lgPfn,3d,lgPpc,qy,ldPq4,q9,ldPq5,qd,ldPq6,qf,ldP
  q7,qh,ldPq8,qz,ldPqy,qh,lkPqz,qt,lkPr0,qn,ldPr1,qt,ldPr2,qx,ldPu1,u0,liPuo,tx,lcPup,tx,lkP
  ur,tv,ldPuv,uu,lkPv0,u2,ldPv1,u0,lcPv2,ub,liPvr,vp,lrPxu,ty,liPy9,ts,liPyb,ts,lkPyf,tx,liP
  yj,yh,lkPyl,ty,lkPyn,tz,lkPyr,u0,lgPyt,u0,lkPyv,u6,lkPyz,yx,lkPz1,ul,lkPz3,ub,lgPz5,ub,lkP
  z7,ub,lnPz9,uf,lkPzd,uj,lkP17m,17r,18zP17n,17r,190P17o,18o,190P17p,17r,191P17q,18q,190P
  1c0,1cl,190P1c2,1c1,190P1cj,1ci,190P1t5,1t4,1toP1td,1tc,1toP1tg,1tf,1toP1xn,1xj,1xaP1xo,1xj,1xzP
  288,287,28mP28b,287,27yP28c,287,28nP2ac,2aa,2c7P2bu,2bq,2biP2bv,2br,2biP2bw,2bq,2c7P2fc,2fa,2fqP
  2io,2in,2j9P2iv,2iu,2j9P2iw,2iu,2jaP2iy,2iu,2iqP2iz,2iy,2j9P2mi,2me,2m6P2mj,2mf,2m6P2mk,2me,2mvP
  2qi,2qh,2q2P2qk,2qh,2q7P2ql,2qk,2q2P2qm,2qh,2qnP36u,36t,372P5c6,5c5,5dhP5c8,5c7,5dhP5ca,5c9,5dhP
  5cc,5cb,5dhP5ce,5cd,5dhP5ci,5ch,5dhP5dn,5dm,5dhP5dp,5do,5dhP5ds,5dq,5dhP5dt,5dr,5dhP5dv,5du,5dhP
  5xd,2p,mdP5xf,2q,ljP5xh,2q,mbP5xj,2q,mpP5xl,6f,ldP5xn,2s,ljP5xp,2s,mbP5xr,2s,mpP5xt,2s,mfP
  5xv,2s,mlP5xx,7n,lcP5xz,7n,ldP5y1,2t,mlP5y3,2t,moP5y5,fd,liP5y7,2u,ljP5y9,2v,lgP5yb,2w,ljP
  5yd,2w,mbP5yf,2w,lkP5yh,2w,mfP5yj,2w,mmP5yl,2x,moP5yn,6n,ldP5yp,2z,ldP5yr,2z,mbP5yt,2z,mpP
  5yv,30,mbP5yx,5yv,lgP5yz,30,mpP5z1,30,mlP5z3,31,ldP5z5,31,ljP5z7,31,mbP5z9,32,ljP5zb,32,mbP
  5zd,32,mpP5zf,32,mlP5zh,6t,ldP5zj,6t,lkP5zl,99,lcP5zn,99,ldP5zp,34,ldP5zr,34,ljP5zt,36,ljP
  5zv,36,mbP5zx,5zv,lgP5zz,36,mpP601,37,ljP603,37,mbP605,9n,ljP607,9t,ljP609,603,ljP60b,38,ljP
  60d,38,mbP60f,38,mpP60h,38,mlP60j,39,mcP60l,39,moP60n,39,mlP60p,a1,ldP60r,a3,lkP60t,3a,lfP
  60v,3a,mbP60x,3b,lcP60z,3b,ldP611,3b,lkP613,3b,ljP615,3b,mbP617,3c,ljP619,3c,lkP61b,3d,ljP
  61d,3e,leP61f,3e,mbP61h,3e,mpP61i,2w,mpP61j,38,lkP61k,3b,lmP61l,3d,lmP61t,2p,mbP61v,2p,llP
  61x,6a,ldP61z,6a,lcP621,6a,llP623,6a,lfP625,61t,leP627,77,ldP629,77,lcP62b,77,llP62d,77,lfP
  62f,61t,liP62h,2t,mbP62j,2t,llP62l,2t,lfP62n,6i,ldP62p,6i,lcP62r,6i,llP62t,6i,lfP62v,62h,leP
  62x,2x,llP62z,2x,mbP631,33,mbP633,33,llP635,6s,ldP637,6s,lcP639,6s,llP63b,6s,lfP63d,631,leP
  63f,bl,ldP63h,bl,lcP63j,bl,llP63l,bl,lfP63n,bl,mbP63p,39,mbP63r,39,llP63t,c0,ldP63v,c0,lcP
  63x,c0,llP63z,c0,lfP641,c0,mbP643,3d,lcP645,3d,mbP647,3d,llP649,3d,lfP64g,q9,lvP64h,q9,lwP
  64i,64g,lcP64j,64h,lcP64k,64g,ldP64l,64h,ldP64m,64g,n6P64n,64h,n6P64w,qd,lvP64x,qd,lwP64y,64w,lcP
  64z,64x,lcP650,64w,ldP651,64x,ldP65c,qf,lvP65d,qf,lwP65e,65c,lcP65f,65d,lcP65g,65c,ldP65h,65d,ldP
  65i,65c,n6P65j,65d,n6P65s,qh,lvP65t,qh,lwP65u,65s,lcP65v,65t,lcP65w,65s,ldP65x,65t,ldP65y,65s,n6P
  65z,65t,n6P668,qn,lvP669,qn,lwP66a,668,lcP66b,669,lcP66c,668,ldP66d,669,ldP66o,qt,lvP66p,qt,lwP
  66q,66o,lcP66r,66p,lcP66s,66o,ldP66t,66p,ldP66u,66o,n6P66v,66p,n6P674,qx,lvP675,qx,lwP676,674,lcP
  677,675,lcP678,674,ldP679,675,ldP67a,674,n6P67b,675,n6P67k,q9,lcP67m,qd,lcP67o,qf,lcP67q,qh,lcP
  67s,qn,lcP67u,qt,lcP67w,qx,lcP69c,q9,liP69d,q9,lgP69i,q9,n6P69y,qf,n6P6a8,qh,liP6a9,qh,lgP
  6aa,qy,lcP6ae,qh,n6P6af,qy,n6P6ao,qt,liP6ap,qt,lgP6aq,qz,lcP6as,qp,lvP6at,qp,lwP6au,qt,n6P
  6av,qz,n6P6ba,qx,n6P6my,6mo,mwP6mz,6mq,mwP6ni,6ms,mwP6od,6og,mwP6oe,6ok,mwP6of,6oi,mwP6pw,6pv,mwP
  6q1,6q0,mwP6q4,6q3,mwP6qs,6qr,mwP6qu,6qt,mwP6rl,6rg,mwP6ro,6rn,mwP6rr,6rp,mwP6rt,6rs,mwP
  6sg,1p,mwP6si,6sh,mwP6st,6rx,mwP6su,1o,mwP6sv,1q,mwP6sw,6sk,mwP6sx,6sl,mwP6t0,6sy,mwP6t1,6sz,mwP
  6t4,6t2,mwP6t5,6t3,mwP6tc,6t6,mwP6td,6t7,mwP6tg,6te,mwP6th,6tf,mwP6tk,6ti,mwP6tl,6tj,mwP
  6uk,6ua,mwP6ul,6ug,mwP6um,6uh,mwP6un,6uj,mwP6w0,6t8,mwP6w1,6t9,mwP6w2,6tt,mwP6w3,6tu,mwP
  6wa,6uq,mwP6wb,6ur,mwP6wc,6us,mwP6wd,6ut,mwP9jg,9jf,9llP9ji,9jh,9llP9jk,9jj,9llP9jm,9jl,9llP
  9jo,9jn,9llP9jq,9jp,9llP9js,9jr,9llP9ju,9jt,9llP9jw,9jv,9llP9jy,9jx,9llP9k0,9jz,9llP9k2,9k1,9llP
  9k5,9k4,9llP9k7,9k6,9llP9k9,9k8,9llP9kg,9kf,9llP9kh,9kf,9lmP9kj,9ki,9llP9kk,9ki,9lmP9km,9kl,9llP
  9kn,9kl,9lmP9kp,9ko,9llP9kq,9ko,9lmP9ks,9kr,9llP9kt,9kr,9lmP9lg,9ja,9llP9lq,9lp,9llP9m4,9m3,9llP
  9m6,9m5,9llP9m8,9m7,9llP9ma,9m9,9llP9mc,9mb,9llP9me,9md,9llP9mg,9mf,9llP9mi,9mh,9llP9mk,9mj,9llP
  9mm,9ml,9llP9mo,9mn,9llP9mq,9mp,9llP9mt,9ms,9llP9mv,9mu,9llP9mx,9mw,9llP9n4,9n3,9llP9n5,9n3,9lmP
  9n7,9n6,9llP9n8,9n6,9lmP9na,9n9,9llP9nb,9n9,9lmP9nd,9nc,9llP9ne,9nc,9lmP9ng,9nf,9llP9nh,9nf,9lmP
  9o4,9ly,9llP9o7,9nz,9llP9o8,9o0,9llP9o9,9o1,9llP9oa,9o2,9llP9oe,9od,9llP1fpl,1fpu,ljP
  1fqc,1fq2,ljP1hui,1huh,1hveP1huk,1huj,1hveP1huz,1hut,1hveP1hym,1hyp,1hyfP1hyn,1hyq,1hyfP
  1idn,1idj,1idaP1ido,1idj,1idzP1if7,1if6,1ih5P1if9,1if8,1igrP1ifi,1iff,1igyP1ifl,1ifk,1ih5P
  1ih1,1igy,1igyP1ih3,1igy,1igoP1ih4,1igy,1ih5P1inv,1int,1inuP1inw,1int,1inkP1iny,1int,1inxP
  1iuy,1iuw,1iunP1iuz,1iux,1iunP1jjs,1jjp,1jjkP1xr5,1xr2,1xr2P1xr6,1xr2,1xrdP1xr7,1xr2,1xr3P
  1xr8,1xrd,1xr3P1xr9,1xr2,1xr4P1xra,1xr5,1xr3P1xrb,1xr6,1xr3P1xrc,1xr5,1xr4P206g,206f,206fP
  206h,206b,206fP206i,206h,206fP"

structure Composite where
  whole : Char
  first : Char
  second : Char

def composites : List Composite :=
  (Text.packedEntries [] none compositeTriples.toList).map fun e =>
    ⟨Char.ofNat (e.number 0), Char.ofNat (e.number 1), Char.ofNat (e.number 2)⟩

/-- Runs of `C` with their class of marks in front, and of `S` for class zero. -/
def markClassRuns : String :=
  "lcS6e,lC6gC64,4C6gC60C64,5C5m,2C64,4C5m,2C64,bC1,5C64,4C6e,aC64,3C6e,3C64,3C6e,3C64,4C6eC6gC64,2C
  6eC6hC6i,2C6hC6i,2C6hC6e,eC7mS6e,5C7dS64C6e,4C64C6e,3C66C64C6e,6C64,6C6e,2C64C6e,2C66C6cC6eCaCbC
  cCdCeCfCgChCiCj,2CkClCmCSnCSoCpCS6eC64CSi,9C1sS6e,8CuCvCwC1cSrCsCtCuCvCwCxCyC6e,2C64,2C6e,5C64C
  6e,2C64CgSzC2tS6e,8CS6e,4C64C6eC2S6e,2CS64C6e,2C64CzS10CuS6eC64C6e,2C64C6e,2C64,3C6eC64,2C6eC64C
  6e,3C64C6eC64C6eC64C6eC64C6e,4C4eS6e,7C64C6eC9S64CoS6e,4CS6e,9CS6e,3CS6e,7C15S64,5C1lS6e,2C64,3C
  6e,4C16S6e,5C64,5C6e,fC64C6e,2C64C6e,2C64C6e,3C64,3CrCsCtC6e,3C64C6e,2C64,2C6e,5C1oS7CgS9C3S6eC
  64C6e,2C2vS7CgS9C1cS6e,3C1nS7,2CfS9,4C2zS7CgS9,3C30S7CgS9,8C3cS9,3C30S7CgS9,8C2cC2j,2C2sS7CgS9,8C
  2uS9,2CgS9C3gS9,5C2xS2v,2C9,5C9S2z,4C30S3a,2C9CdS3e,4C24S64,2CrS64CS64CS60C1jS3lC3m,2C3o,6C3m,4C
  2S3m,2C6e,2C9CS6e,2C1qS64C34S7CS9,2C2aS64CjzS6e,3CqcS9,bClS9C4dS9CaS6e,3C5lS6cC3zS66C6eC64,5C5zS
  6eC64C1zS9CkS6e,aC64C1cS6e,5C64,6C6e,2C64CS64,2C6e,2C64,2C6e,5C64C6e,iC64,3C6e,6C64C6e,4C6i,lC1gS
  7CfS9C12S6eC64C6e,7C1iS9,2C1mS7CbS9,aC1nS7,4C45S6e,3CS1C64,5C6e,2C64,4C6eCS1,7C4S64C6S6eC3S6e,2C
  5iS6e,2C64C6e,7C64C6e,2C6iC5yC64C5mC6e,11C6gC6c,2C64C62C6eC6hC64C6eC64,2CjzS6e,2C1,2C6e,4C1,3C
  6e,2C4S6eC3S1,2C6eC64C6eC1,2C64,4C6e,kC2crS6e,4C3wS9C2oS6e,wCfeS62C6cC6gC66C68,2C2xS8,4Cn9uS6eC4S
  6e,aCwS6e,2C28S6e,2C7oS9C11S9,4C44S9CrS6e,iC1lS64,3C11S9,cC2cS7CcS9C6nS6eCS6e,2C64C2S6e,2C5S6e,2C
  S6eC1gS9,bC6kS9,3Cfn2Sq,44ChaS6e,7C64,7C6e,nCqgS64,3nC2oS64C45S6e,aC1alS64CS6eC14S6eC1C64,5C9C4lS
  6eC64,5CftS6e,cC1lS6e,5C8tS6e,2C25S64,2CS64,3C1yS64,2C6e,3C64C6eC64,4C1dS6eC64C6eC64C5cS9C15S9CeS
  9C1lS9C7C1xS6e,3C1cS9,3C1pS7C24S9C9S7C2yS9C7C4yS7C9,6C23S7,2CgS9,3CmS6e,qC26S9,3C35S9C3S7CnS6eC
  2rS9C7C6zS9C7C3iS9C3aS9C7C37S9,5C7dS9C7C76S9,2C4S7C4cS9C2bS9CiS9,9C21S9CbpS9C76S7CS9,2C29S9CbtS
  9,2Cd0sS9C1xcS1,5C1nS6e,7CxlS6,2Cf58S1C43qS60,2C1,3C3S6aC60,dC64,8C2S6e,5C64,2CuS6e,4C44S6e,3C
  2pnS6e,74C1cS6e,7CafS6e,iC18S6e,4Ce4S6g,2C64C6eC72S6eC64C6rS6eC2S6eC7S6e,2C5S6e,9CcyS64,2aCyS
  6e,6C7C"

def markClassTable : Text.RunTable Nat :=
  .ofPacked (fun e => if e.kind = 'C' then (e.number 1, e.number 0) else (e.number 0, 0))
    markClassRuns

/-- The class that orders marks; zero for what starts anew. -/
def markClass (c : Char) : Nat := if c.toNat < 0x300 then 0 else markClassTable.getD c.toNat 0

/-- The class of marks that join a consonant to the next. -/
def viramaClass : Nat := 9

/-- The first syllable. Syllables are numbered by 19 initials, 21 vowels, and 27 finals or none. -/
def hangulBase : Nat := 0xAC00

def initialBase : Nat := 0x1100

def vowelBase : Nat := 0x1161

/-- One before the first final. -/
def finalBase : Nat := 0x11A7

def hangulParts? (c : Char) : Option (List Char) :=
  let n := c.toNat - hangulBase
  if c.toNat < hangulBase ∨ 19 * 21 * 28 ≤ n then none
  else
    let syllable := [Char.ofNat (initialBase + n / (21 * 28)),
      Char.ofNat (vowelBase + n / 28 % 21)]
    some (if n % 28 = 0 then syllable else syllable ++ [Char.ofNat (finalBase + n % 28)])

def hangul? (a b : Char) : Option Char :=
  let l := a.toNat - initialBase
  let v := b.toNat - vowelBase
  let s := a.toNat - hangulBase
  let t := b.toNat - finalBase
  if initialBase ≤ a.toNat ∧ l < 19 ∧ vowelBase ≤ b.toNat ∧ v < 21 then
    some (Char.ofNat (hangulBase + (l * 21 + v) * 28))
  else if hangulBase ≤ a.toNat ∧ s < 19 * 21 * 28 ∧ s % 28 = 0 ∧ finalBase < b.toNat ∧ t < 28 then
    some (Char.ofNat (a.toNat + t))
  else none

/-- The character that two make, if they make one. -/
def composite? (a b : Char) : Option Char :=
  if b.toNat < 0x300 then none
  else
    match hangul? a b with
    | some c => some c
    | none => (composites.find? fun t => t.first == a && t.second == b).map (·.whole)

/-- The parts of a character, taken apart at most `depth` times. -/
def partsOf : (depth : Nat) → Char → List Char
  | 0, c => [c]
  | depth + 1, c =>
    if c.toNat < 0xC0 then [c]
    else
      match hangulParts? c with
      | some cs => cs
      | none =>
        match composites.find? fun t => t.whole == c with
        | some t => partsOf depth t.first ++ [t.second]
        | none => [c]

/-- How often a composed character can be taken apart. -/
def compositeDepth : Nat := 3

/-- Puts a mark before those of a higher class; the text stands in reverse. -/
def insertMark (c : Char) : List Char → List Char
  | [] => [c]
  | d :: ds =>
    if markClass c ≠ 0 ∧ markClass c < markClass d then d :: insertMark c ds else c :: d :: ds

/-- The text with the marks behind each letter in rising classes. -/
def ordered (cs : List Char) : List Char :=
  (cs.foldl (fun done c => insertMark c done) []).reverse

/-- Composes with the letter `start`, behind which the marks `between` have stayed, the last of
them of the class `last`. A mark behind one of its own class or a higher one stays too. -/
def composeWith : (start : Char) → (between : List Char) → (last : Nat) → List Char → List Char
  | start, between, _, [] => start :: between
  | start, between, last, c :: cs =>
    let joined := if between.isEmpty || last < markClass c then composite? start c else none
    match joined with
    | some whole => composeWith whole between last cs
    | none =>
      if markClass c = 0 then start :: between ++ composeWith c [] 0 cs
      else composeWith start (between ++ [c]) (markClass c) cs

/-- Marks at the front have no letter and stay. -/
def composeAll : List Char → List Char
  | [] => []
  | c :: cs => if markClass c = 0 then composeWith c [] 0 cs else c :: composeAll cs

def composed (cs : List Char) : List Char :=
  composeAll (ordered (cs.flatMap (partsOf compositeDepth)))

end Devnet.Url.Domain
