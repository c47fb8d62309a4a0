/-! # Names of characters: ancient

Scripts of the supplementary planes, most of them no longer in use.
-/

namespace Assay.Text.CharacterName

def ancientLines : List String :=
  ["^10000&LINEAR BvvB008 A,B038 E,B028 I,B061 O,B010 U,B001es,B045 DE,B007 DI,B014 DO,B051 DU",
   ",B057kz,B046 JE^1000D,B036 JO,B065 JU,B077le,B044 KE,B067 KI,B070 KO,B081 KU,B080nf,B013 ME",
   ",B073 MI,B015 MO,B023of,B006ok,B024 NE,B030 NI,B052ov,B055 NU,B003qh,B072qq,B039qw,B011 PO",
   ",B050 PU,B016 QA,B078 QE,B021 QI,B032 QO^10028,B060rv,B027 RE,B053 RI,B002 RO,B026 RU,B031sx",
   ",B009 SE,B041 SI,B012 SO,B058 SU,B059vx,B004wf,B037 TI,B005xe,B069 TU,B054yx,B075 WE,B040 WI",
   ",B042 WO^1003C,B017zr,B074 ZE^1003F,B020 ZO,B025 A2,B043 A3,B085bj,B071 DWE,B090 DWO,B048 NWA",
   ",B029 PU2,B062 PTE,B076 RA2,B033 RA3,B068 RO2,B066 TA2,B087 TWE,B091yb^10050+vwB018,B019,B022",
   ",B034,B047,B049,B056,B063,B064,B079,B082,B083,B086,B089^10080+IDEOGRAM B100nl,B102 WOMAN",
   ",B104 DEER,B105 EQUID,B105F MARE,B105M STALLION,B106F EWE,B106M RAM,B107F SHE-GOAT",
   ",B107M HE-GOAT,B108F SOW,B108M BOAR,B109F COW,B109M BULL,B120 WHEAT,B121 BARLEY,B122 OLIVE",
   ",B123 SPICE,B125 CYPERUS+nyB127 KAPO,B128 KANAKO+IDEOGRAM B130 OIL,B131 WINE,B132+nyB133 AREPA",
   ",B135 MERI+IDEOGRAM B140 BRONZE,B141 GOLD,B142,B145 WOOL,B146,B150,B151jx,B152,B153,B154",
   "+nyB156 TURO2+IDEOGRAM B157,B158,B159 CLOTH,B160,B161,B162 GARMENT,B163 ARMOUR,B164,B165,B166",
   ",B167,B168,B169,B170,B171,B172,B173 MONTH,B174,B176 TREE,B177,B178,B179,B180,B181,B182,B183",
   ",B184,B185,B189,B190,B191 HELMET,B220 FOOTSTOOL,B225 BATHTUB,B230 SPEAR,B231bd,B232,B233 SWORD",
   ",B234,B236,B240 WHEELED CHARIOT,B241 CHARIOT,B242 CHARIOT FRAME,B243 WHEEL,B245,B246",
   "+nyB247 DIPTE+IDEOGRAM B248,B249,B251,B252,B253,B254 DART,B255,B256,B257,B258,B259,VESSEL B155",
   ":B200:B201:B202:B203:B204:B205:B206:B207:B208:B209:B210:B211:B212:B213:B214:B215:B216:B217",
   ":B218:B219:B221:B222:B226:B227:B228:B229:B250:B305^10100&AEGEANzftnmt,ft*dinm^10107*pgpt+yb+wy",
   "+ib+hu+um+to+gi+or+wk+ya+wv+hz+hn+up+tq+gm+ot+ptjy+ybjy+wyjy+ibjy+hujy+umjy+tojy+gijy+orjy",
   "+ptww+ybww+wyww+ibww+huww+umww+toww+giww+orww+wkww+yaww+wvww+hzww+hnww+upww+tqww+gmww+otww",
   "^10137*WEIGHT BASE UNIT+FIRSTvp+SECONDvp+wsvp+FOURTHvp*DRY MEASURE FIRSTvp",
   "*LIQUID MEASURE FIRSTvp*MEASURE SECONDvp+wsvp&itACROPHONIC ATTICptrq:iy:DRACHMA,hu,hn,hujy:ww",
   ",hnww,huwd,wkwd,hnwd,ptjywd,hujywd,ptwwwd,huwwwd:vg,wkvg,hnvg,ptjyvg,hujyvg,ptwwvg,wkwwvg",
   ",hnwwvg,wkMNAS+HERAEUMptPLETHRON+wppt+HERMIONIANpt+EPIDAUREANyb+wpyb+CYRENAICybDRACHMAS",
   "+EPIDAUREANybDRACHMAS+TROEZENIANhu,wk:aohy+HERMIONIANwk+MESSENIANwk+wpwk,wv+TROEZENIANhn:aohy",
   "+HERMIONIANhn+wphn,ptjy,wyjy+EPIDAUREANhujy+TROEZENIANhujy+wphujy+CARYSTIANhujy+NAXIANhujy",
   "+wpptww,huww+DELPHIChuMNAS+STRATIANhnMNAS*ptiyuh:aohy*ybwtuh*wyrruh*YEARuh*TALENTuh*DRACHMAuh",
   "*OBOLuh*ybOBOLSuh*wyOBOLSuh*ibOBOLSuh*huOBOLSuh*METRETESuh*KYATHOS BASEuh*LITRAuh*OUNKIAuh",
   "*XESTESuh*ARTABEuh*AROURAuh*GRAMMAuh*TRYBLION BASEuh*zwuh*ptrquh*SINUSOIDuh*INDICTIONuh",
   "&NOMISMAuh^10190&ROMAN SEXTANSuh*UNCIAuh*SEMUNCIAuh*SEXTULAuh*DIMIDIA SEXTULAuh*SILIQUAuh",
   "*DENARIUSuh*QUINARIUSuh*SESTERTIUSuh*DUPONDIUSuh*ASuh*CENTURIALuh&ASCIAvw^101A0&itvwwese",
   "^101D0&PHAISTOS DISCuhPEDESTRIAN,PLUMEDjl,TATTOOEDjl,CAPTIVE,CHILD,WOMAN,HELMET,GAUNTLET,TIARA",
   ",bd,BOW,SHIELD,CLUB,MANACLES,MATTOCK,SAW,LID,BOOMERANG,CARPENTRY PLANE,DOLIUM,COMB,SLING",
   ",COLUMN,BEEHIVE,SHIP,jx,HIDE,BULLSmm,CAT,RAM,EAGLE,DOVE,TUNNY,BEE,PLANE TREE,VINE,PAPYRUS",
   ",ROSETTE,LILY,OXbn,FLUTE,GRATER,STRAINER,usAXE,WAVY BAND,dvpkvj^10280&LYCIANmqA+E+B+BH+G+D+I+W",
   "+Z+TH+J+K+Q+L+M+N+MM+NN+U+P+KK+R+S+T+TT+ar+gq+H+X^102A0&CARIANmqA+P2+D+L+UUU+R+LD+A2+Q+B+M+O",
   "+D2+T+SH+SH2+S+C-18+U+NN+X+N+TT2+P+SS+I+E+UUUU+K+K2+ND+yl+G+G2+ST+ST2+NG+ke+C-39+TT+UUU2+su+MB",
   "+MB2+MB3+MB4+LD2+E2+UUU3^102E0&eeEPACTwxnm+fopt,yb,wy,ib,hu,um,to,gi,or+pgwk,ya,wv,hz,hn,up,tq",
   ",gm,ot,ptjy,ybjy,wyjy,ibjy,hujy,umjy,tojy,gijy,orjy^10300&ppkwmqA,BE,KE,DE,E,VE,ZE,jk,wn,I,le",
   ",EL,EM,gq,gz,O,qq,tx,KU,ER,ES,wf,U,EKS,PHE,KHE,EF,ERS,dh,ke,yl,ESS+phpt,hu,wk,hn^1032D+mqYE",
   ",NORTHERN TSE,SOUTHERN TSE&GOTHICmqAHSA+BAIRKAN+GIBA+DAGS+AIHVUS+QAIRTHRA+IUJA+HAGL+THIUTH+EIS",
   "+KUSMA+LAGUS+MANNA+NAUTHS+JER+URUS+PAIRTHRA+ot+RAIDA+SAUIL+TEIWS+WINJA+FAIHU+IGGWS+HWAIR+OTHAL",
   "+orjy^10350&ppPERMICmqar,BUR,GAI,DOI,E,ZHOI,DZHOI,ZATA,DZITA,I,KOKE,LEI,MENOE,NENOE,VOOI,PEEI",
   ",REI,SII,TAI,U,CHERY,SHOOI,SHCHOOI,YRY,YERU,O,pu,EF,iw,TSIU,VER,YER,YERI,YAT,IE,zp,zj,IA",
   "&dvppPERMICmqar:DOI:ZATA:NENOE:SII^10380&UGARITICmqALPA+ca+GAMLA+ln+fe+HO+WO+zx+HOTA+TET+YOD",
   "+lf+ub+mb+ns+DHAL+pi+ZU+SAMKA+ah+PU+SADE+QOPA+RASHA+THANNA+im+xe+I+U+SSU^1039F*zfDIVIDER",
   "&ppPERSIANuhA,I,U,le,KU,ig,GU,XA,cr,kz,JI,vx,TU,es,DI,DU,wm,qh,bm,hg,ok,NU,nf,MI,of,zj,ym,VI",
   ",rv,RU,ly,sx,zr,tr,ve,iw^103C8,AURAMAZDAA,AURAMAZDAA-2,AURAMAZDAAHA,XSHAAYATHIYA,DAHYAAUSH",
   ",DAHYAAUSH-2,BAGA,BUUMISH+zfDIVIDER+pgpt,yb,wk,ya,jy^10400&DESERETcvmqmyI:E:A:AH:O:pu,ucI:E:A",
   ":AH:O:pu,AY,OW,WU,YEE,H,PEE,BEE,TEE,DEE,CHEE,JEE,KAY,GAY,EF,VEE,ETH,THEE,ES,ZEE,gz,ZHEE,ER,EL",
   ",EM,gq,ENG,OI,EW*usmqmyI:E:A:AH:O:pu,ucI:E:A:AH:O:pu,AY,OW,WU,YEE,H,PEE,BEE,TEE,DEE,CHEE,JEE",
   ",KAY,GAY,EF,VEE,ETH,THEE,ES,ZEE,gz,ZHEE,ER,EL,EM,gq,ENG,OI,EW&SHAVIANmqPEEP+TOT+KICK+FEE+THIGH",
   "+SO+SURE+CHURCH+YEA+HUNG+BIB+DEAD+GAG+VOW+THEY+ZOO+MEASURE+JUDGE+WOE+HA-HA+LOLL+MIME+IF+EGG+bg",
   "+ADO+ps+WOOL+OUT+AH+ROAR+pi+EAT+AGE+ICE+yf+OAK+OOZE+OIL+AWE+ARE+py+AIR+ERR+ARRAY+EAR+IAN+YEW",
   "&OSMANYAmqaj+bm+vx+kz+XA+ln+DEEL+rv+sx+SHIIN+fg+CAYN+ig+hg+QAAF+KAAF+LAAN+MIIN+NUUN+za+iw+zj+A",
   "+E+I+O+U+aa+gg+pu^104A0*fozw+pt+yb+wy+ib+hu+um+to+gi+or^104B0&OSAGEcvmqA,ag,ah,AH,BRA,de,EHCHA",
   ",E,EIN,iw,HYA,I,le,EHKA,KYA,ly,nf,ok,O,OIN,qh,EHPA,sx,tr,vx,EHTA,xr,EHTSA,xs,fg,U,yx,ln,il,zr",
   ",zy^104D8*usmqA,ag,ah,AH,BRA,de,EHCHA,E,EIN,iw,HYA,I,le,EHKA,KYA,ly,nf,ok,O,OIN,qh,EHPA,sx,tr",
   ",vx,EHTA,xr,EHTSA,xs,fg,U,yx,ln,il,zr,zy^10500&ELBASANmqA+BE+CE+dh+DE+NDE+DHE+EI+E+FE+GE+GJE",
   "+jk+I+JE+KE+LE+LLE+ME+NE+ok+NJE+O+qq+QE+RE+RRE+SE+tx+wf+wn+U+VE+XE+Y+ZE+ZHE+in+GHAMMA+KHE",
   "^10530&CAUCASIAN ALBANIANmqALT,BET,GIM,DAT,EB,ZARL,EYN,ZHIL,TAS,de,YOWD,zy,IRB,tr,LAN,INYA",
   ",XEYN,DYAN,CAR,JHOX,KAR,LYIT,HEYT,QAY,AOR,CHOY,dk,CYAY,MAQ,QAR,NOWC,DZYAY,SHAK,JAYN,ps,TYAY",
   ",FAM,DZAY,CHAT,PEN,GHEYS,RAT,SEYK,VEYZ,TIWR,SHOY,IWN,CYAW,CAYN,YAYD,PIWR,KIW^1056F+CITATIONnm",
   "&VITHKUQIcvmqA,BBE,BE,CE,dh,DE,DHE,EI,E,FE,ig^1057C,iw,HHA,I,IJE,JE,le,ly,mw,ME,NE,NJE,O,qq,QA",
   ",RE^1058C,SE,tx,wf,wn,U,VE,XE^10594,Y,ZE^10597*usmqA,BBE,BE,CE,dh,DE,DHE,EI,E,FE,ig^105A3,iw",
   ",HHA,I,IJE,JE,le,ly,mw,ME,NE,NJE,O,qq,QA,RE^105B3,SE,tx,wf,wn,U,VE,XE^105BB,Y,ZE",
   "^10600&LINEAR AuhAB001,AB002,AB003,AB004,AB005,AB006,AB007,AB008,AB009,AB010,AB011,AB013,AB016",
   ",AB017,AB020,AB021,AB021F,AB021M,AB022,AB022F,AB022M,AB023,AB023M,AB024,AB026,AB027,AB028",
   ",A028B,AB029,AB030,AB031,AB034,AB037,AB038,AB039,AB040,AB041,AB044,AB045,AB046,AB047,AB048",
   ",AB049,AB050,AB051,AB053,AB054,AB055,AB056,AB057,AB058,AB059,AB060,AB061,AB065,AB066,AB067",
   ",AB069,AB070,AB073,AB074,AB076,AB077,AB078,AB079,AB080,AB081,AB082,AB085,AB086,AB087,A100-102",
   ",AB118,AB120,A120B,AB122,AB123,AB131A,AB131B,A131C,AB164,AB171,AB180,AB188,AB191,A301,A302",
   ",A303,A304,A305,A306,A307,A308,A309A,A309B,A309C,A310,A311,A312,A313A,A313B,A313C,A314,A315",
   ",A316,A317,A318,A319,A320,A321,A322,A323,A324,A325,A326,A327,A328,A329,A330,A331,A332,A333",
   ",A334,A335,A336,A337,A338,A339,A340,A341,A342,A343,A344,A345,A346,A347,A348,A349,A350,A351",
   ",A352,A353,A354,A355,A356,A357,A358,A359,A360,A361,A362,A363,A364,A365,A366,A367,A368,A369",
   ",A370,A371,A400-VAS,A401-VAS,A402-VAS,A403-VAS,A404-VAS,A405-VAS,A406-VAS,A407-VAS,A408-VAS",
   ",A409-VAS,A410-VAS,A411-VAS,A412-VAS,A413-VAS,A414-VAS,A415-VAS,A416-VAS,A417-VAS,A418-VAS",
   ",A501,A502,A503,A504,A505,A506,A508,A509,A510,A511,A512,A513,A515,A516,A520,A521,A523,A524",
   ",A525,A526,A527,A528,A529,A530,A531,A532,A534,A535,A536,A537,A538,A539,A540,A541,A542,A545",
   ",A547,A548,A549,A550,A551,A552,A553,A554,A555,A556,A557,A559,A563,A564,A565,A566,A568,A569",
   ",A570,A571,A572,A573,A574,A575,A576,A577,A578,A579,A580,A581,A582,A583,A584,A585,A586,A587",
   ",A588,A589,A591,A592,A594,A595,A596,A598,A600,A601,A602,A603,A604,A606,A608,A609,A610,A611",
   ",A612,A613,A614,A615,A616,A617,A618,A619,A620,A621,A622,A623,A624,A626,A627,A628,A629,A634",
   ",A637,A638,A640,A642,A643,A644,A645,A646,A648,A649,A651,A652,A653,A654,A655,A656,A657,A658",
   ",A659,A660,A661,A662,A663,A664^10740,A701 A,A702 B,A703 D,A704 E,A705 F,A706 H,A707 J,A708 K",
   ",A709 L,A709-2 L2,A709-3 L3,A709-4 L4,A709-6 L6,A710 W,A711 X,A712 Y,A713pq,A714 ABB,A715 BB",
   ",A717 DD,A726 EYYY,A732 JE^10760,A800,A801,A802,A803,A804,A805,A806,A807^10780&nxmquscvaa",
   "+vrxpdu,iyxpdu+usAE,cvB,Bzejv^10787,DZfp;zesbjv<en,DEZHfp,Dzewb;jv<aswb,sdE,dssdpvE,FENGfp",
   ",RAMSjx,cvG,Gzejv,cvGzejv,Hzevj,cvH,HENGzejv,fuJzevjasjv,LSfp,LZfp,LzeBELT,cvLzeBELT",
   ",LzesbjvasBELT,LEZH:zesbjv,xwY;zeBELT,Ozevj,cvpm,dspq,Q,xwRzemymm>assbjv,Rzewb;ht,cvR,TCfpzeen",
   ",TSfp;zesbjv,TESHfp,Tzesbjv,Vzesgjv^107B2,cvY+iqvhzevj+sdiqvhzevj+BILABIALdq+DENTALdq",
   "+LATERALdq+ALVEOLARdq+sbdqzesbjv+usSzeen^10800&CYPRIOTvvA+E+I+O+U+kz^10808+JO^1080A+le+KE+KI",
   "+KO+KU+ly+LE+LI+LO+LU+nf+ME+MI+MO+of+ok+NE+NI+ov+NU+qh+qq+qw+PO+PU+rv+RE+RI+RO+RU+sx+SE+SI+SO",
   "+SU+vx+wf+TI+xe+TU+yx+WE+WI+WO^10837+XA+XE^1083C+zr^1083F+ZO&IMPERIAL ARAMAICmqak,cb,io,ev,jk",
   ",za,zv,jq,TETH,zn,lg,mc,ns,pi,tb,bl,qq,sz,QOPH,rz,ub,TAW^10857+tiuh+pgpt,yb,wy,wk,ya,ptjy:ww",
   ",wkww&PALMYRENEmqak+cb+io+ev+jk+za+zv+jq+TETH+zn+lg+mc+ns+hqpi+pi+tb+bl+qq+sz+QOPH+rz+ub+TAW",
   "*miFLEURON*siFLEURON*pgpt+yb+wy+ib+hu+wk+ya&NABATAEANmqhqak+ak+hqcb+cb+io+ev+hqjk+jk+za+zv+jq",
   "+TETH+hqzn+zn+hqlg+lg+hqmc+mc+hqns+ns+hqpi+pi+tb+bl+qq+sz+QOPH+rz+hqub+ub+TAW^108A7*pgpt+yb+wy",
   "+ib*CRUCIFORMpgib*pghu+wk+ya+ptjy^108E0&HATRANmqak+cb+io+DALETH-RESH+jk+za+ZAYN+jq+TETH+zn+lg",
   "+mc+ns+pi+tb+AYN+qq+sz+QOPH^108F4+ub+TAW^108FB*pgpt+hu+wk+ya+ptjy&PHOENICIANmqALF+BET+GAML",
   "+DELT+jk+WAU+ZAI+HET+TET+YOD+lf+LAMD+ns+pi+SEMK+ah+qq+SADE+QOF+ROSH+ub+we*pgpt+wk+ya+ptjy+yb",
   "+wy^1091F*zftn&LYDIANmqA+B+G+D+E+V+I+Y+K+L+M+N+O+R+SS+T+U+F+Q+S+TT+ar+gq+LY+NN+C^1093F*xpnm",
   "^10980&MEROITIC HIEROGLYPHICmqA,E,I,O,zj,yx,bm,BA-2,qh,nf,ok,NA-2,NE,NE-2,rv,RA-2,ly,ln,HHA,sx",
   ",SA-2,SE,le,QA,vx,TA-2,wf,TE-2,xe,es+vwVIDJ,VIDJ-2*CURSIVEmqA,E,I,O,zj,yx,bm,qh,nf,ok,NE,rv,ly",
   ",ln,HHA,sx,bbsx,SE,le,QA,vx,wf,xe,es^109BC+idgoxy,ptiy+LOGOGRAM RMT,IMN+pgpt,yb,wy,ib,hu,um,to",
   ",gi,or,wk,ya,wv,hz,hn,up,tq^109D2,ptjy,ybjy,wyjy,ibjy,hujy,umjy,tojy,gijy,orjy,ptww,ybww,wyww",
   ",ibww,huww,umww,toww,giww,orww,wkww,yaww,wvww,hzww,hnww,upww,tqww,gmww,otww,ptjyww,ybjyww",
   ",wyjyww,ibjyww,hujyww,umjyww,tojyww,gijyww,orjyww+idptTWELFTH,ybxy,wyxy,ibxy,huxy,umxy,toxy",
   ",gixy,orxy,wkxy&KHAROSHTHImqA*ywuhI,U,yuR^10A05,E,O^10A0C+mnnm*uhfxsmbx+aw+yt*mqle+ln+ig+il",
   "^10A15+cr+de+kz^10A19+pj+xu+xv+fb+fc+ou+vx+wm+es+fg+ok+qh+qt+bm+cd+nf+zj+rv+ly+ym+tr+ve+sx+zr",
   "+iw+KKA+TTTHA+TTTA+VHA^10A38*uhbtad+CAUDA+ftbx^10A3F*ys*fopt+yb+wy+ib*pgwk+ya+ptjy,ww*idptiy",
   "^10A50*rlft+usdm+dm+egbt+MANGALAM+LOTUS+ex+fxex+LINES^10A60&ppuxARABIANmqjk:mc:jq:ns:QOPH:za",
   ":ub:rz:cb:TAW:SAT:lg:pi:KHETH:sz:tb:FE:aj:AYN:DHADHE:io:ev:GHAYN:TETH:ZAYN:DHALETH:zn:THAW",
   ":THETH,pgpt:hn,NUMERICki*oyARABIANmqjp:ma:ix:nr:rm:za:ES-2:ry:bw:wi:ES-1:lf:ow:lo:sy:ES-3:hl",
   ":aj:ah:et:GEEM:DAL:im:wa:zs:THAL:zl:wo:ZAH,pgpt:wk:ya^10AC0&MANICHAEANmqak+cb+BHETH+io+GHIMEL",
   "+ev+jk+za*uhUD*mqzv+ZHAYIN+JAYIN+JHAYIN+jq+TETH+zn+lg+XAPH+KHAPH+mc+DHAMEDH+THAMEDH+ns+pi+tb",
   "+bl+AAYIN+qq+FE+sz+QOPH+XOPH+QHOPH+rz+ub+SSHIN+TAW*abnmad,bx^10AEB*pgpt+hu+wk+ya+ptjy*rlvf",
   "+FLEURON+fxftWITHINft+ftWITHINft+ft+ybfv+mthp^10B00&AVESTANmqA+aa+AO+AAO+ar+AAN+AE+AEE+E+gg+O",
   "+pu+I+ke+U+yl+KE+XE+XYE+XVE+GE+GGE+in+CE+JE+wf+wn+DE+DHE+TTE+qq+FE+BE+BHE+NGE+NGYE+NGVE+NE+NYE",
   "+NNE+ME+HME+YYE+YE+VE+RE+LE+SE+ZE+tx+ZHE+SHYE+SSHE+jk^10B39*abnm&TINYybfvqcptftrl",
   "&usybfvqcptftrl&mdybfvqcptftrl*ptftqcybfvrl*ybRINGSqcptsmrl*ptsmqcybRINGSrl",
   "&INSCRIPTIONAL PARTHIANmqak,cb,io,ev,jk,za,zv,jq,TETH,zn,lg,mc,ns,pi,tb,bl,qq,sz,QOPH,rz,ub",
   ",TAW^10B58+pgpt,yb,wy,ib,wk,ya,ptjy:ww*PAHLAVImqak,cb,io,ev,jk,WAW-AYIN-RESH,zv,jq,TETH,zn,lg",
   ",mc,MEM-QOPH,pi,tb,qq,sz,ub,TAW^10B78+pgpt,yb,wy,ib,wk,ya,ptjy:ww&PSALTER PAHLAVImqak,cb,io,ev",
   ",jk,WAW-AYIN-RESH,zv,jq,zn,lg,mc,MEM-QOPH,pi,tb,qq,sz,ub,TAW^10B99+tinm+xwtinm+ibfvzeei;ft",
   "^10BA9+pgpt,yb,wy,ib,wk,ya,ptjy^10C00&ppTURKICmqpzA,zmA:AE,pzI,zmI:E,pzO:pm,zmpm,pzAB,zmAB",
   ",pzAEB,zmAEB,pzAG,zmAG,pzAEG,zmAEG,pzAD,zmAD,pzAED:EZ,zmEZ,pzAY,zmAY,pzAEY,zmAEY,pzAEK,zmAEK",
   ",pzOEK,zmOEK,pzAL,zmAL,pzAEL:ELT:EM:ar:AEN,zmAEN,pzENT,zmENT,pzENC,zmENC,pzENY,zmENY:ANG,pzENG",
   ",zmAENG,pzEP:OP:IC:EC,zmEC,pzAQ,zmAQ,pzIQ,zmIQ,pzOQ,zmOQ,pzAR,zmAR,pzAER:AS:AES:bg,zmbg,pzgz",
   ",zmgz,pzAT,zmAT,pzAET,zmAET,pzOT:BASH^10C80*HUNGARIANcvmqA:aa:EB:AMB:EC:ENC:ECS:ED:as:E",
   ":CLOSE E:gg:EF:EG:EGY:EH:I:ke:EJ:EK:AK:UNK:EL:ELY:EM:gq:ENY:O:pu:NIKOLSBURGpm:RUDIMENTApm:OEE",
   ":EP:EMP:ER:ucER:ES:ESZ:ET:ENT:ETY:ECH:U:yl:NIKOLSBURG UE:RUDIMENTA UE:EV:EZ:EZS:ENT-SHAPEDuh",
   ":US^10CC0+usmqA:aa:EB:AMB:EC:ENC:ECS:ED:as:E:CLOSE E:gg:EF:EG:EGY:EH:I:ke:EJ:EK:AK:UNK:EL:ELY",
   ":EM:gq:ENY:O:pu:NIKOLSBURGpm:RUDIMENTApm:OEE:EP:EMP:ER:ucER:ES:ESZ:ET:ENT:ETY:ECH:U:yl",
   ":NIKOLSBURG UE:RUDIMENTA UE:EV:EZ:EZS:ENT-SHAPEDuh:US^10CFA+pgpt,hu,wk,hn,ptjy:ww",
   "&HANIFI ROHINGYAmqA,bm,qh,vx,xu,kz,cr,iw,ln,hg,es,fb,rv,sv,zr,sx,tr,le,ig,ly,nf,ok,yx,KINNAyx",
   ",zj,KINNAzj,oq,pj,ym+ywA,I,U,E,O+nmSAKIN,okKHONNA+uhHARBAHAY,TAHALA,TANA,TASSI^10D30+fozw,pt",
   ",yb,wy,ib,hu,um,to,gi,or^10E60&RUMIfopt+yb+wy+ib+hu+um+to+gi+or*pgwk+ya+wv+hz+hn+up+tq+gm+ot",
   "+ptjy+ybjy+wyjy+ibjy+hujy+umjy+tojy+gijy+orjy*idptiy,rq,ws+ybwt^10E80&YEZIDImqELIF+BE+qq+PHE",
   "+wn+SE+CIM+CHIM+CHHIM+HHA+XA+DAL+ZAL+rv+RHA+zr+kz+SIN+ub+sy+et+vx+ZE+EYN+XHEYN+hg+ym,aohy+rm",
   "+lf+KHAF+GAF+ma+MIM+pi+UM+za+OW+EW+HAY+YOT+ET^10EAB*dviznm+nhnm*HYPHENATIONnm^10EB0*mqmazeftad",
   "+YOTzedpad^10F00&ppSOGDIANmqak,hqak,cb,hqcb,io,jk,hqjk,za,zv,jq,zn,lg,mc,ns,pi,hqpi;zeypwb,tb",
   ",bl,aobl,qq,sz,hqsz;zeypwb,RESH-AYIN-DALETH,ub,TAW,hqTAW;zeypwb+pgpt,yb,wy,ib,hu,wk,ya,wv,ptjy",
   "+idptiy+mrAYIN-DALETH^10F30&SOGDIANmqak+cb+io+jk+za+zv+jq+zn+lg+mc+ns+pi+tb+bl+qq+sz+RESH-AYIN",
   "+ub+TAW+FETH+LESH*kgub*dvftbx+ybfvbx+ftad+ybfvad+epad,bx+jvad,bx+myjvbx+rzbx+vjbx*pgpt+wk+ya",
   "+ptjy*rlybypBARS;zefv+dmzeft+ybdozefv+iydmzeft^10F70&ppUYGHURmqak,cb,GIMEL-HETH,za,zv,hqjq,zn",
   ",lg,mc,ns,pi,tb,qq,sz,rz,ub,TAW,LESH+dvftad:bx,ybfvad;bx+rlbt,ybBARS:fv,ibfv",
   "^10FB0&CHORASMIANmqak+usak+cb+io+ev+jk+za+CURLEDza+zv+jq+zn+lg+mc+ns+pi+tb+bl+qq+rz+ub+TAW",
   "*pgpt+yb+wy+ib+wk+ya+ptjy^10FE0&ELYMAICmqak+cb+io+ev+jk+za+zv+jq+TETH+zn+lg+mc+ns+pi+tb+bl+qq",
   "+sz+QOPH+rz+ub+TAW*mrZAYIN-YODH^11000&BRAHMIuhcu+aw+yt+ld+yh*mqA+aa+I+ke+U+yl+yuR,su,L,mv+E+ag",
   "+O+bj+le+ln+ig+il+oq+cr+de+kz+lc+pj+xu+xv+fb+fc+ou+vx+wm+es+fg+ok+qh+qt+bm+cd+nf+zj+rv+ly+ym",
   "+tr+ve+sx+iw+mw+ppTAMIL LLLA:sv:NNNA*ywuhaa,BHATTIPROLUaa,I,ke,U,yl,yuR:su:L:mv,E,ag,O,bj*ys",
   "*ex*fxex*rlft+fxft+mt+egbt+LOTUS^11052*pgpt+yb+wy+ib+hu+um+to+gi+or+wk+ya+wv+hz+hn+up+tq+gm+ot",
   "+ptjy,ww*fozw+pt+yb+wy+ib+hu+um+to+gi+or*uhppTAMILys*mqppTAMILucE;O*ywuhppTAMILucE<O",
   "*mqppTAMILmw^1107F*pgJOINER&KAITHIuhcu+aw+yt*mqA+aa+I+ke+U+yl+E+ag+O+bj+le+ln+ig+il+oq+cr+de",
   "+kz+lc+pj+xu+xv+fb+DDDHA+fc+RHA+ou+vx+wm+es+fg+ok+qh+qt+bm+cd+nf+zj+rv+ly+ym+tr+ve+sx+iw",
   "*ywuhaa,I,ke,U,yl,E,ag,O,bj*uhys+pf*abuh*ENUMERATIONuh*pguh*tinm*fxtinm*ex*fxex*ywuhyuR",
   "^110CD*pguhad^110D0&SORA SOMPENGmqSAH,wa,BAH,CAH,DAH,GAH,MAH,NGAH,LAH,NAH,VAH,PAH,YAH,RAH,ix",
   ",KAH,JAH,NYAH,AH,EEH,IH,UH,OH,EH,MAE^110F0+fozw,pt,yb,wy,ib,hu,um,to,gi,or^11100&CHAKMAuhcu+aw",
   "+yt*mqaa+I+U+E+KAA+KHAA+GAA+GHAA+NGAA+CAA+CHAA+JAA+JHAA+NYAA+TTAA+TTHAA+DDAA+DDHAA+NNAA+TAA",
   "+THAA+DAA+DHAA+NAA+PAA+PHAA+BAA+BHAA+MAA+YYAA+YAA+RAA+LAA+WAA+SAA+HAA*ywuhA,I,ke,U,yl,E,ag,O",
   ",bj,OI*Onm*bjnm*ys*MAAYYAA^11136*fozw+pt+yb+wy+ib+hu+um+to+gi+or*tinm*ex*fxex*rtnm*mqLHAA",
   "*ywuhaa,EI*mqVAA^11150&MAHAJANImqA+I+U+E+O+le+ln+ig+il+cr+de+kz+lc+pj+xu+xv+fb+fc+ou+vx+wm+es",
   "+fg+ok+qh+qt+bm+cd+nf+rv+ly+ym+sx+iw+sv*uhpf*abuh*tinm*mrSHRI^11180&SHARADAuhcu+aw+yt*mqA+aa+I",
   "+ke+U+yl+yuR,su,L,mv+E+ag+O+bj+le+ln+ig+il+oq+cr+de+kz+lc+pj+xu+xv+fb+fc+ou+vx+wm+es+fg+ok+qh",
   "+qt+bm+cd+nf+zj+rv+ly+mw+ym+tr+ve+sx+iw*ywuhaa,I,ke,U,yl,yuR:su:L:mv,E,ag,O,bj*uhys+bk+ld+yh",
   "*OM*ex*fxex*abuh*tn*SANDHInm*uhpf*ywnxnm*EXTRAucywnm*SUTRAnm*ywuhPRISHTHAMATRA E*uhkscu*fozw",
   "+pt+yb+wy+ib+hu+um+to+gi+or*EKAM*uhud*HEADSTROKE*CONTINUATIONuh*tiMARK-1+MARK-2",
   "^111E1&SINHALAbbfopt,yb,wy,ib,hu,um,to,gi,or+pgwk,ya,wv,hz,hn,up,tq,gm,ot,ptjy:ww",
   "^11200&KHOJKImqA+aa+I+U+E+ag+O+bj+le+ln+ig+GGA+il+oq+cr+de+kz+JJA^11213+pj+xu+xv+fb+fc+ou+vx",
   "+wm+es+DDDA+fg+ok+qh+qt+bm+BBA+cd+nf+zj+rv+ly+ym+sx+iw+mw*ywuhaa,I,ke,U,E,ag,O,bj*uhaw+ys+pf",
   "+SHADDA*ex*fxex*zftn*tinm*fxtinm*abuh*uhSUKUN^11280&MULTANImqA+I+U+E+le+ln+ig^11288+il",
   "^1128A+cr+de+kz+JJA^1128F+pj+xu+xv+fb+DDDA+fc+ou+vx+wm+es+fg+ok+qh+qt+bm^1129F+cd+nf+zj+rv+ly",
   "+ym+sx+iw+sv+RHA*tinm^112B0&KHUDAWADImqA+aa+I+ke+U+yl+E+ag+O+bj+le+ln+ig+GGA+il+oq+cr+de+kz",
   "+JJA+lc+pj+xu+xv+fb+DDDA+sv+fc+ou+vx+wm+es+fg+ok+qh+qt+bm+BBA+cd+nf+zj+rv+ly+ym+tr+sx+iw*uhaw",
   "*ywuhaa,I,ke,U,yl,E,ag,O,bj*uhpf+ys^112F0*fozw+pt+yb+wy+ib+hu+um+to+gi+or",
   "^11300&GRANTHAuhdvawad+cu+aw+yt^11305*mqA+aa+I+ke+U+yl+yuR,L^1130F+gg+ag^11313+pu+bj+le+ln+ig",
   "+il+oq+cr+de+kz+lc+pj+xu+xv+fb+fc+ou+vx+wm+es+fg+ok^1132A+qh+qt+bm+cd+nf+zj+rv^11332+ly+mw",
   "^11335+ym+tr+ve+sx+iw^1133B&dvBINDUbx&GRANTHAuhpf+bk*ywuhaa,I,ke,U,yl,yuR:su^11347,gg,ag",
   "^1134B,pu,bj*uhys^11350*OM^11357*bjmnnm^1135D*uhPLUTA*mqVEDICaw,fxaw+yusu,mv*ywuhyuL:mv",
   "^11366&dvGRANTHAfozw,pt,yb,wy,ib,hu,um^11370+mqA,le,ok,VI,qh^11400&NEWAmqA+aa+I+ke+U+yl+yuR,su",
   ",L,mv+E+ag+O+bj+le+ln+ig+il+oq+NGHA+cr+de+kz+lc+pj+NYHA+xu+xv+fb+fc+ou+vx+wm+es+fg+ok+NHA+qh",
   "+qt+bm+cd+nf+MHA+zj+rv+RHA+ly+LHA+yx+tr+ve+sx+iw*ywuhaa,I,ke,U,yl,yuR:su:L:mv,E,ag,O,bj*uhys",
   "+cu+aw+yt+pf+bk+hqaw*OM*SIDDHI*ex*fxex*dw*GAPhp*abuh*fozw+pt+yb+wy+ib+hu+um+to+gi+or*fxdw",
   "*PLACEHOLDERnm^1145D*INSERTIONuh*SANDHInm*mqVEDICaw*uhld+yh^11480&TIRHUTA ANJI*mqA+aa+I+ke+U",
   "+yl+yuR,su,L,mv+E+ag+O+bj+le+ln+ig+il+oq+cr+de+kz+lc+pj+xu+xv+fb+fc+ou+vx+wm+es+fg+ok+qh+qt+bm",
   "+cd+nf+zj+rv+ly+ym+tr+ve+sx+iw*ywuhaa,I,ke,U,yl,yuR:su:L:mv,E,ucE,ag,O,ucO,bj*uhcu+aw+yt+ys+pf",
   "+bk*GVANG*abuh*OM^114D0*fozw+pt+yb+wy+ib+hu+um+to+gi+or^11580&udmqA+aa+I+ke+U+yl+yuR,su,L,mv+E",
   "+ag+O+bj+le+ln+ig+il+oq+cr+de+kz+lc+pj+xu+xv+fb+fc+ou+vx+wm+es+fg+ok+qh+qt+bm+cd+nf+zj+rv+ly",
   "+ym+tr+ve+sx+iw*ywuhaa,I,ke,U,yl,yuR:su^115B8,E,ag,O,bj*uhcu+aw+yt+ys+pf+ud*ex*fxex*tnft+bt",
   "*REPETITION MARK-1+MARK-2+MARK-3*grpnTEXTnm*tinmzeTRIDENTasU-SHAPED ORNAMENTS<fweh:RAYSasfweh",
   "=fxeh=xqeh,fxsm;zeRAYS,zefxeh:xqeh:rpeh:SEPTUPLEeh:doasRAYS<ybENCLOSURES<ibENCLOSURES",
   "*mqTHREE-CIRCLEaoI+TWO-CIRCLEaoI:ke+aoU*ywuhaoU:yl^11600&MODImqA+aa+I+ke+U+yl+yuR,su,L,mv+E+ag",
   "+O+bj+le+ln+ig+il+oq+cr+de+kz+lc+pj+xu+xv+fb+fc+ou+vx+wm+es+fg+ok+qh+qt+bm+cd+nf+zj+rv+ly+ym",
   "+tr+ve+sx+iw+mw*ywuhaa,I,ke,U,yl,yuR:su:L:mv,E,ag,O,bj*uhaw+yt+ys+ARDHACANDRA*ex*fxex*abuh",
   "*uhHUVA^11650*fozw+pt+yb+wy+ib+hu+um+to+gi+or^11660&MONGOLIANcezeqa*spce*fxcezeqa*xqcezeqa",
   "*cezefxqa*spcezeqa:fxqa*ksce,zefxqa*SWIRLce,zeqa:fxqa*xwSWIRLcezefxqa^11680&TAKRImqA+aa+I+ke+U",
   "+yl+E+ag+O+bj+le+ln+ig+il+oq+cr+de+kz+lc+pj+xu+xv+fb+fc+ou+vx+wm+es+fg+ok+qh+qt+bm+cd+nf+zj+rv",
   "+ly+ym+tr+sx+iw+sv*uhaw+yt*ywuhaa,I,ke,U,yl,E,ag,O,bj*uhys+pf*mqbbln*abuh^116C0*fozw+pt+yb+wy",
   "+ib+hu+um+to+gi+or^11700&AHOMmqle+ln+oq+ok+vx+aovx+qh+qt+bm+nf+kz+de+wm+rv+ly+sx+pj+iw+A+es+fg",
   "+ig+aoig+il+cd+lc+aobm^1171D*eauhnply:rv:LIGATINGrv*ywuhA,aa,I,ke,U,yl,E,AW,O,ag,AM*uhKILLER",
   "^11730*fozw+pt+yb+wy+ib+hu+um+to+gi+or*pgwk+ya*uhusti+ti+RULAI*vwVI*mqcr+xu+xv+fb+fc+ou+mw",
   "^11800&DOGRAmqA+aa+I+ke+U+yl+E+ag+O+bj+le+ln+ig+il+oq+cr+de+kz+lc+pj+xu+xv+fb+fc+ou+vx+wm+es",
   "+fg+ok+qh+qt+bm+cd+nf+zj+rv+ly+ym+tr+ve+sx+iw+sv*ywuhaa,I,ke,U,yl,yuR:su,E,ag,O,bj*uhaw+yt+ys",
   "+pf*abuh^118A0&WARANG CITIcvmqNGAA:A:WI:zp:zj:YO:ke:yl:E:O:ANG:ig:KO:ENY:YUJ:UC:ENN:ODD:TTE",
   ":NUNG:es:AT:AM:BU:PU:HIYO:HOLO:HORR:HAR:SSUU:SII:VIYO+usmqNGAA:A:WI:zp:zj:YO:ke:yl:E:O:ANG:ig",
   ":KO:ENY:YUJ:UC:ENN:ODD:TTE:NUNG:es:AT:AM:BU:PU:HIYO:HOLO:HORR:HAR:SSUU:SII:VIYO+fozw,pt,yb,wy",
   ",ib,hu,um,to,gi,or+pgwk,ya,wv,hz,hn,up,tq,gm,ot^118FF+OM&DIVES AKURUmqA,aa,I,ke,U,yl,E^11909,O",
   "^1190C,le,ln,ig,il,oq,cr,de,kz^11915,pj,xu^11918,fb,fc,ou,vx,wm,es,fg,ok,qh,qt,bm,cd,nf,zj,YYA",
   ",rv,ly,ym,tr,ve,sx,iw,mw,zr+ywuhaa:I:ke:U:yl:E^11937:ag:O^1193B+uhaw,cu,HALANTA+ys",
   "+PREFIXED NASALuh+npzj+klrv+nprv+uhpf+fxex+GAPhp+grpnTEXTnm^11950+fozw,pt,yb,wy,ib,hu,um,to,gi",
   ",or^119A0&NANDINAGARImqA+aa+I+ke+U+yl+yuR,su^119AA+E+ag+O+bj+le+ln+ig+il+oq+cr+de+kz+lc+pj+xu",
   "+xv+fb+fc+ou+vx+wm+es+fg+ok+qh+qt+bm+cd+nf+zj+rv+ly+ym+tr+ve+sx+iw+mw+sv*ywuhaa,I,ke,U,yl,yuR",
   ":su^119DA,E,ag,O,bj*uhaw+yt+ys+bk+ud*HEADSTROKE*ywuhPRISHTHAMATRA E^11A00&ZANABAZARvcmqA+ywuhI",
   ":UE:U:E:pm:O:ag:bj:sdI,mnnm+mqle,ln,ig,il,oq,cr,de,kz,pj,xu,xv,fb,fc,ou,vx,wm,es,fg,ok,qh,qt",
   ",bm,cd,nf,xr,xs,DZA,DZHA,zy,zr,-A,zj,rv,ly,ym,tr,ve,sx,iw,KSSA+hqeanm+uhys,cu:zeqa,ctzeqa,aw",
   ",yt+CLUSTER-INITIALmqrv+CLUSTER-FINALmqzj:rv:ly:ym+kljlnm+CLOSINGjlnm+nmxt,ts,fxts,myxt",
   "+klDOUBLE-LINEDjlnm+CLOSING DOUBLE-LINEDjlnm+SUBJOINER^11A50&SOYOMBOmqA*ywuhI,UE,U,E,O,pm,ag",
   ",bj,yuR:L+mnnm*mqle+ln+ig+il+oq+cr+de+kz+lc+pj+xu+xv+fb+fc+ou+vx+wm+es+fg+ok+qh+qt+bm+cd+nf+xr",
   "+xs+DZA+zy+zr+-A+zj+rv+ly+ym+tr+ve+sx+iw+KSSA*uhld+yh*CLUSTER-INITIALmqrv,ly,tr,sx*hqeauhG:K",
   ":NG:D:N:B:M:R:L:SH:S:-A*uhaw+yt*iknm*SUBJOINER*nmxt+ts+fxts+PLUTA*jlnmzenzasSUNasxqFLAME>FLAME",
   "<SUN*TERMINAL MARK-1+MARK-2^11AB0&CANADIAN SYLLABICS NATTILIK HI,HII,HO,HOO,iw,HAA,SHRI,SHRII",
   ",SHRO,SHROO,SHRA,SHRAA+SPE+SPI+SPO+SPA&PAU CIN HAUmqqh:le:ly:nf:es:zr:ym:oq:iw:ig:ln:sx:bm:cr",
   ":vx:wm:ok:qt:rv:hg:de:A:E:I:O:U:UA:IA:hqP;K;T;M;N;L;W;NG;Y,snxfmy:xf,SANDHIiqvh,snxfmyhq;hq",
   ",SANDHIiqvhhq:xfmy:xf;myhq;hq,MID-LEVELxf,iqvhyo,MID-LEVELxfmyhq;hq,LOW-FALLINGxfmy:xf,iqvh",
   ",LOW-FALLINGxfmyhq;hq,iqvhhq^11C00&BHAIKSUKImqA+aa+I+ke+U+yl+yuR,su,L^11C0A+E+ag+O+bj+le+ln+ig",
   "+il+oq+cr+de+kz+lc+pj+xu+xv+fb+fc+ou+vx+wm+es+fg+ok+qh+qt+bm+cd+nf+zj+rv+ly+ym+tr+ve+sx+iw",
   "*ywuhaa,I,ke,U,yl,yuR:su:L^11C38,E,ag,O,bj*uhcu+aw+yt+ys+bk*ex*fxex*zftn*GAP FILLER-1+FILLER-2",
   "^11C50*fozw+pt+yb+wy+ib+hu+um+to+gi+or*pgpt+yb+wy+ib+hu+um+to+gi+or+wk+ya+wv+hz+hn+up+tq+gm+ot",
   "*HUNDREDS UNITnm^11C70&MARCHENjlnm*nmts*mqle+ln+ig+oq+cr+de+kz+pj+vx+wm+es+ok+qh+qt+bm+nf+xr",
   "+xs+DZA+yx+zy+zr+-A+zj+rv+ly+tr+sx+iw+A^11C92*vlmqle,ln,ig,oq,cr,de,kz,pj,vx,wm,es,ok,qh,qt,bm",
   ",nf,xr,xs,DZA,yx,zy,zr^11CA9,zj,rv,ly,tr,sx,iw,A*ywuhaa,I,U,E,O*uhaw+cu^11D00&MASARAM GONDImqA",
   ",aa,I,ke,U,yl,E^11D08,ag,O^11D0B,bj,le,ln,ig,il,oq,cr,de,kz,lc,pj,xu,xv,fb,fc,ou,vx,wm,es,fg",
   ",ok,qh,qt,bm,cd,nf,zj,rv,ly,ym,tr,ve,sx,iw,mw,KSSA,JNYA,TRA+ywuhaa:I:ke:U:yl:yuR^11D3A:E",
   "^11D3C:ag:O^11D3F:bj+uhaw,yt,pf,ct,HALANTA+ys+REPHA+RA-KARA^11D50+fozw,pt,yb,wy,ib,hu,um,to,gi",
   ",or^11D60&GUNJALA GONDImqA,aa,I,ke,U,yl^11D67,gg,ag^11D6A,pu,bj,zj,ym,bm,cd,nf,le,ln,vx,wm,ly",
   ",ig,il,es,fg,ok,cr,de,xu,xv,mw,kz,lc,fb,fc,oq,qh,qt,iw,rv,sx+ywuhaa:I:ke:U:yl^11D90:gg:ag",
   "^11D93:pu:bj+uhaw,yt+ys+OM^11DA0+fozw,pt,yb,wy,ib,hu,um,to,gi,or^11EE0&MAKASARmqle+ig+oq+qh+bm",
   "+nf+vx+es+ok+cr+kz+pj+zj+rv+ly+ym+sx+A*ANGKA*ywuhI,U,E,O*PASSIMBANG*grpnti^11FB0&LISUmqYHA",
   "^11FC0&TAMILidptTHREE-HUNDRED-AND-TWENTIETH,ONE-HUNDRED-AND-SIXTIETH,EIGHTIETH,SIXTY-FOURTH",
   ",FORTIETH,THIRTY-SECOND+wyEIGHTIETHS,SIXTY-FOURTHS+ptTWENTIETH,SIXTEENTH-1,SIXTEENTH-2,TENTH",
   ",gk+wyTWENTIETHS,SIXTEENTHS+ptFIFTH,rq,HALF-1,HALF-2+wyrr+DOWNSCALING FACTOR KIIZH*uhNEL",
   "+CEVITU+AAZHAAKKU+UZHAKKU+MUUVUZHAKKU+KURUNI+PATHAKKU+MUKKURUNI+KAACU+PANAM+PON+VARAAKAN",
   "+PAARAM+KUZHI+VELI*WET CULTIVATIONuh*DRY CULTIVATIONuh*LANDuh*SALT PANuh*TRADITIONAL CREDITuh",
   "+pguh*CURRENTuh*asODDuh*SPENTuh*TOTALuh*kfPOSSESSIONuh*STARTINGieuh*uhMUTHALIYA+VAKAIYARAA",
   "^11FFF*rlgrpnTEXT&CUNEIFORMuhA,xdA:bq:iiwl:iw:kd:LAGARiv:MUSH:SAG+A2+AB,xdASH2:DUN3iv:GAL:iiwl",
   ":iw:kdiv:IMIN:lz:SHESH:UqzUqzU,iv+AB2,xdBALAG:iiwl:MEqzgq:SHA3:wc+AD+AK,xdERIN2:SHITAqzip+AL",
   ",xdAL:DIM2:ip:iw:KAD3:KI:tx:USH+ALAN+ak+AMAR,xdtx+ar,qcar,wyxd,qzNAGApxarqzNAGA;vd+ANSHE+APIN",
   "+ARAD,xdKUR+ARKAB+ASAL2+bg,ZIDAwl,KABAwl,qcbgTUG2qcTUG2 TUG2qcTUG2 PAP;qcbg=elbgqcbgqcbg+ASH2",
   "+ASHGAB+bm+bq+BAG3+BAHAR2+BAL,qcBAL+BALAG+bt+BARA2+BI,xdA:ij:kdiv+BU,qcBU AB;UN,elBU+BULUG",
   ",qcBULUG+BUR+BUR2+es+DAG,KISIM5xdAqzMASH;AMAR;BALAG;BI;ig<qzMASH;GI;GIR2;GUD;iw;IR<qzLU;KAK;ly",
   ";LU<qzMASH2;LUM;NE;PAPqzPAP;SI;wc;U2qzGIR2;USH+DAM+DAR+DARA3+DARA4+DI+DIB+DIM,xdtx+DIM2+DIN",
   ",ljUivfq+fq+DU,qcDU,iv,ua+DUB,xdESH2+DUB2+DUG+DUGUD+DUH+DUN+DUN3,iv:iv+DUN4+DUR2+E,xdPAP",
   ",qcEpiqcpi+E2,xdAqziwqzes:ij:MI:SAL:tx:U+EDIN+EGIR+EL+gq,xdii;wl:ME,elgq,pxgq,vd+EREN+ERIN2",
   "+ESH2+EZEN,xdA;qzLAL=xdLAL:ar:bq:DUN3iv<iv:iw;iv:kdiv:lj;vd:KU3:ly:LALxdLAL:LI:LU:U2:UD+ig,iv",
   "+GA2,xdAqzesqziw<iw<kd:AB2wlqzTAB:ar:bg:ASH2qzGAL:bq:btqzrv:BUR;qzrv:es:DI:DIMxdtx:DUB:EL;qzly",
   ":gq;xdiiwl:iiwl:ij:GI:GI4;qzA:GIR2qzSU:iwqzLUqzESH2:HAL;qzly:HIqzLI:HUB2:kdiv:ISHqzHUqzbg:KAK",
   ":lj:KID;qzLAL:KU3qzar:ly:MEqzgq:MI:pi;qcpi:qh:SAL:SAR:tx;qzTUR:SHID:SUM:wc:U:UD;qzDU,qcGA2",
   "+GABA,elGABA+GAD,qcGADijqcij+GAL,GADqcGADijqcij+GALAM+GAM+GAN+ii,wl,qcii,elii+ij+GAR3+GASHAN",
   "+GESHTIN,xdKUR+GI,xdE:U,elGI+GI4,qcGI4,elGI4+GIDIM+GIR2,iv+GIR3,xdAqzkd:iiwl:kd:LUqzkd:qh",
   "+GISAL+ip,elip,xdbq:wc,wl+GU,elGU+GU2,xdKAK;xdkdiv:pi:SALqzTUG2,iv+GUD,xdAqzKUR:KUR",
   ",qcGUD LUGAL+GUL+GUM,xdtx+GUR+GUR7+GURUN+GURUSH+iw,wl,iv+HAL+HI,xdbg:ASH2:bq:fq:GAD:KIN:pi:tx",
   ":U+HU+HUB2,xdar:HAL:lj:LISH:UD+HUL2+I,A+IB+IDIM,qcIDIM BUR;vd+IG+kd,DIB,RI",
   ",qckdSHIRqcSHIR UDqcUD,iv+IL,xdiiwl+IL2+IM,xdwc,elIM,pxIM,vd+IMIN+kf+IR+ISH+le,xdA:AD;qzKU3",
   ":ASH2:bq:BALAG:bt:BI:ERIN2:ESH2:ig:GAL:iiwl:ij;qzSHA3qzA:GI:GIR2:ipqzSAR;elip:GU:GUR7:kd:IM",
   ":KAK:KI:KID:LI:LU:ME;qzDU<GI<wf:MI;qzNUNUZ:NE:pi:qw:RU:sx:SAR:tr:tx:SHID:SHU:SIG:SUHUR:TAR:U",
   ":U2:UD:UMUMxdqh:USH:ZI+KA2,elKA2+KAB+KAD2+KAD3+KAD4+KAD5,qcKAD5+KAK,xdkdiv+KAL,xdbq,elKAL+KAM2",
   "+KAM4+lj,lzxdUqclzxdU,qcljlzxdUqclzxdU+KESH2+KI,xdbq:U:UD+KID+KIN+KISAL+KISH+KISIM5,qcKISIM5",
   "+KU,qcHIxdASH2 KUqcHIxdASH2+KU3+KU4,yohy+KU7+KUL,iv+KUN+KUR,pxKUR+KUSHU2+KWU318+ly+lz,xdA",
   ";qzesqziw<ij<LAL:AL:ar:bgZIDAwl:bq:BI:DAR:gq:ig:ij:GUD;qzGUD:iw:HAL:HIxdpi:kdiv:IM;qziw<LU:KI",
   ":KIN:KU3:KUL;qzHIqzA:lz:LISH:LU:LUL:ME;qzgq:MUSH:NE:txqzSUM:SHITAqzipqzERIN2=wl:SHU2;qzSHU2",
   ":SUM:TAG:wc:wfqzAqzSUqzok:U;qzA<UqzU:U2qzbg:UD:USH,vd+LAGAR,xdtx;qzSUM,iv:qcLAGARivtx+LAHSHU",
   "+LAL,xdLAL+ma,xdKUR;qzRU+LI+LIL+LIMMU2+LISH+LU,xdbq+LU2,xdAL:bq:ESH2;wl:iiwl:HIxdbq:IM:KAD2",
   ":KAD3;qzbg:KI:lyqzbg:lz:MEqzgq:NE:NU:SIqzbg:SIK2qzBU:TUG2,wl,elLU2,pxLU2,vd,ua+LU3+LUGAL",
   ",qcLUGAL,pxLUGAL,ua+LUH+LUL+LUM,qcLUM;ijqcij+nf,xdwc,iv+MA2+MAH+MAR+MASH+MASH2+ME+MES+MI+MIN",
   "+of,qcof+MUG,iv+MUNSUB+MURGU2+MUSH,xdA:KUR:zr,qcMUSH;xdAqzok,elMUSH+MUSH3,xdA;qzDI:DI,iv+ok",
   "+NA2+NAGA,ks,xdSHUwl,pxNAGA+NAGAR+NAM NUTILLU+NAM+NAM2+NE,xdA:UD,ua+NI,xdE+NI2+NIM,xdiiwl",
   ":ijqziiwl+NINDA2,xdar:bg;qzbg:GUD:MEqziiwl:NE:pi:tx;qzAar<bg=qzbg:U2qzbg:USH+NISAG+NU+NU11+pi",
   ",LAGARxdij;MASH;SAL<qcpiLAGARxdSAL;USH,wl,qcpi,elpi;LAGARqcLAGAR+NUNUZ,AB2xdASHGAB;BI;DUG;GUD",
   ";kdiv;KAD3;ly;NE;SILA3;U2,KISIM5xdBI<U+qh+PAD+PAN+PAP+PESH2+qw,xdA:AB:BI:BU:E:I:IB:U:U2,elqw",
   "+PIRIG,xdKAL:UD:zr,pxPIRIG+rv+RAB+RI+RU+sx+SAG NUTILLU+SAG,xdA:DU:DUB:iw:KAK:KUR:LUM:MI:pi:SAL",
   ":SHID:TAB:U2:UB:UM:UR:USH,qcSAG,iv+SAL,lzxdASH2+SANGA2+SAR+tr+SHA3,xdA:bq:ip:NE:SHU2:TUR:U;qzA",
   "+SHA6+SHAB6+tw+tx,HU,qctxGADqcGADijqcij;TABqcTABijqcij+SHEG9+SHEN+SHESH+SHESH2+SHESHLAM+SHID",
   ",xdA:IM+SHIM,xdA:BAL:BULUG:DIN:ij:kd;iv:KUSHU2:LUL:MUG:SAL+SHINIG+SHIR,wl,qcSHIR BURqcBUR",
   "+SHITA+SHU,qcksSHU+SHU2+SHUBUR+SI,iv+SIG+SIG4,qcSIG4 SHU2+SIK2+SILA3+SU,qcSU+SUD+SUD2+SUHUR",
   "+SUM+SUMASH+SUR+SUR9+vx,bh,xdHI:MI,iv+TAB,qcTAB NIqcNIfqqcfq,vd+TAG,xdBI:GUD:tx:SHU:TUG2:UD+wc",
   "+TAR+wf,iv+TI,wl+TIL+TIR,xdwc,qcTIR;GADqcGADijqcij+TU+TUG2+TUK+TUM+TUR,qcTURzrqczr+U,GUD,U U",
   ",qcUqhqcqhijqcij;SURqcSUR;UsdqcUsd+U2+UB+UD,KUSHU2,xdbq:MI:UqzUqzU~iv,iv,ua:xdbq+UDUG+UM,xdlz",
   ":MEqzes:SHA3:U+UMBIN+UMUM,xdlj:qh+UN,iv+UR,elUR,ua+UR2,xdAqziw<ok:AL:iw:pi:U2;qzbg<BI+UR4+URI",
   "+URI3+URU,xdA:ASHGAB:bt:DUN:ig:GAL:iiwl:ij:GU:iw:kd:IM:ISH:KI:LUM:MIN:qh:tx:SIG4:TU:UqzGUD:UD",
   ":URUDA+URUDA,xdU+USH,xdA:KU:KUR:wc+USHX+USH2+USHUMX+UTUKI+UZ3,xdlj+UZU+zr,wl,vdxdKUR+ZAG+ZAMX",
   "+ZE2+ZI,qcZI+ZI3+ZIB,KABAwl+ZIG+ZIZ2+ZU+ZU5,xdA+ZUBUR+ZUM+KAP ELAMITE+ABxdpi+AB2xdA+AMARxdKUG",
   "+DAG KISIM5xdU2qzMASH+DAG3+fqqzSHU+DUBxdtx+EZENxdGUD:tx+GA2xdarqzKAKqzA:ASH2+GE22+GIG+HUSH",
   "+lexdANSHE:ASH3:ip:GUD:HIxdASH2:LUM:qh:SHUL:TU:UR2+lzxdGI+LU2uaxdbq,xdESH2qzLAL:SHU+MESH",
   "+MUSH3xdzr+NA4+NIN+NIN9+NINDA2xdBAL:GI+NU11spotfd+PESH2bh+PIR2+SAGxdkdiv+TI2+UMxdME+U U",
   "^12400*NUMERICuhybbg,wybg,ibbg,hubg,umbg,tobg,gibg,orbg,wyfq,ibfq,hufq,umfq,tofq,gifq,orfq,ibU",
   ",huU,umU,toU,giU,orU,ptGESH2,ybGESH2,wyGESH2,ibGESH2,huGESH2,umGESH2,toGESH2,giGESH2,orGESH2",
   ",ptGESHU,ybGESHU,wyGESHU,ibGESHU,huGESHU,ybtw,wytw;yohy,ibtw,hutw,umtw,totw,gitw,ortw,ptSHARU",
   ",ybSHARU,wySHARU;yohy,ibSHARU,huSHARU,twxdGALqzfq=MIN,ptBURU,ybBURU,wyBURU;yohy,ibBURU,huBURU",
   ",wyyohyESH16<ESH21,ibyohyLIMMU<LIMMU4<LIMMU A=B,umyohyASH9,toyohyIMIN3<IMIN A=B,giyohyUSSU",
   "<USSU3,oryohyILIMMU<ILIMMU3<ILIMMU4<ILIMMU A,ybbgwl,wybgwl,ibbgwl,hubgwl,umbgwl,ptBAN2,ybBAN2",
   ",wyBAN2,ibBAN2;yohy,huBAN2;yohy,NIGIDAMIN,NIGIDAESH,ptESHE3,ybESHE3,ptwsfq,ybwtfq,huSIXTHSfq",
   ",ptwsyohyA,ybwtyohyA,ptgkbg:rqbg,ppASSYRIANptSIXTH<rq,ptrqGUR:iyGUR,ELAMITEptws:ybwt:hz:hn",
   ",ibUyohy,huUyohy,umUyohy,toUyohy,giUyohy,orUyohy^12470*rluhppASSYRIANzfDIVIDER,ypdu,fidu",
   ":TRICOLON:QUADCOLON^12480*uhABxdpiwl:SHU2+ADxdESH2+bqxdfqwl+BAHAR2xdAB2:NI:zr+BUqcBUxdNA2",
   "+esxdwc+DAGxdKUR+DIMxdkd:U U U+DIM2xdUD+DUGxdANSHE:bg;ATmh:DIN:DUN:ERIN2:ig:GI:GIR2iv:ip:iw:HI",
   ":kdiv:lj:KUR:KUSHU2;qzlj:LAK-020:ma;xdKUR:LUHqzip:MASH:MES:MI:NI:qw:tx:SIiv+E2xdKUR:PAP",
   "+ERIN2 X+ESH2elESH2+EZENuaxdbg;HI;kdiv;ly;LAL;ME;MES;SU,xdSU+GA2xdBAHAR2:DIMiv:DUGxdkdiv<lj",
   ":EREN:ig:ijqzDI<NE:iwqzA:KUSHU2qzlj:ma;xdKUR:LUH:MUSH:NE;qzE2<GI:SHIM:ZIZ2+GABAspotfd",
   "+GESHTINxdU+ipxdipelip+GU2xdkdiv+GUDqzipxdwc+iwwliv+HIxdbgqcHIxdbg+lexdBU:le:U U U:UR",
   "+lzxdZUqcZU+LAK-003+LAK-021+LAK-025+LAK-030+LAK-050+LAK-051+LAK-062+LAK-079qcLAK-079iv+LAK-080",
   "+LAK-081qcLAK-081+LAK-092+LAK-130+LAK-142+LAK-210+LAK-219+LAK-220+LAK-225+LAK-228+LAK-238",
   "+LAK-265+LAK-266+LAK-343+LAK-347+LAK-348+LAK-383+LAK-384+LAK-390+LAK-441+LAK-449,xdGU:kd",
   ":PAPqzLU3<PAPqzLU3:U2qzbm+LAK-450+LAK-457+LAK-470+LAK-483+LAK-490+LAK-492+LAK-493+LAK-495",
   "+LAK-550+LAK-608+LAK-617,xdbg:bq:DUN3iviv:KU3:ly:TAR:wf:U2:UD:URUDA+LAK-636+LAK-648,xdDUB:ig",
   ":kd;iv:NI:PAPqzPAPqzLU3:SHESHqzKI:UD:URUDA+LAK-724+LAK-749+LU2ivxdbg,xdfq:HAL:PAP;qzPAPqzLU3",
   ":wc+MIqzZA7+MUSHqcMUSHxdig<KAK+NINDA2xdDIMiv:ip:GUL:HI:KESH2:LAK-050:MASH:PAPqzPAP:U;qzU:URUDA",
   "+SAGivxdiw,xdgq:txATmh:wc+SHA6wl+txqctx,qzHUB2:NAM2:SAR+SHU2qzDUGxdNI:E2xdar+SIxdwc+wcqzSAG",
   "+TUMxdiiwl:wyfq+UR2ks,xdUD+URUxdDARA3:LAK-668:LU3+ZA7+ZUqcZUqzSAR+ZU5xdwyfqwl",
   "^12F90&CYPRO-MINOANuhCM001+CM002+CM004+CM005+CM006+CM007+CM008+CM009+CM010+CM011+CM012+CM012B",
   "+CM013+CM015+CM017+CM019+CM021+CM023+CM024+CM025+CM026+CM027+CM028+CM029+CM030+CM033+CM034",
   "+CM035+CM036+CM037+CM038+CM039+CM040+CM041+CM044+CM046+CM047+CM049+CM050+CM051+CM052+CM053",
   "+CM054+CM055+CM056+CM058+CM059+CM060+CM061+CM062+CM063+CM064+CM066+CM067+CM068+CM069+CM070",
   "+CM071+CM072+CM073+CM074+CM075+CM075B+CM076+CM078+CM079+CM080+CM081+CM082+CM083+CM084+CM085",
   "+CM086+CM087+CM088+CM089+CM090+CM091+CM092+CM094+CM095+CM096+CM097+CM098+CM099+CM100+CM101",
   "+CM102+CM103+CM104+CM105+CM107+CM108+CM109+CM110+CM112+CM114+CM301+CM302",
   "^13000&EGYPTIAN HIEROGLYPH A001+A002+A003+A004+A005+A005A+A006+A006A+A006B+A007+A008+A009+A010",
   "+A011+A012+A013+A014+A014A+A015+A016+A017+A017A+A018+A019+A020+A021+A022+A023+A024+A025+A026",
   "+A027+A028+A029+A030+A031+A032+A032A+A033+A034+A035+A036+A037+A038+A039+A040+A040A+A041+A042",
   "+A042A+A043+A043A+A044+A045+A045A+A046+A047+A048+A049+A050+A051+A052+A053+A054+A055+A056+A057",
   "+A058+A059+A060+A061+A062+A063+A064+A065+A066+A067+A068+A069+A070+B001+B002+B003+B004+B005",
   "+B005A+B006+B007+B008+B009+C001+C002+C002A+C002B+C002C+C003+C004+C005+C006+C007+C008+C009+C010",
   "+C010A+C011+C012+C013+C014+C015+C016+C017+C018+C019+C020+C021+C022+C023+C024+D001+D002+D003",
   "+D004+D005+D006+D007+D008+D008A+D009+D010+D011+D012+D013+D014+D015+D016+D017+D018+D019+D020",
   "+D021+D022+D023+D024+D025+D026+D027+D027A+D028+D029+D030+D031+D031A+D032+D033+D034+D034A+D035",
   "+D036+D037+D038+D039+D040+D041+D042+D043+D044+D045+D046+D046A+D047+D048+D048A+D049+D050+D050A",
   "+D050B+D050C+D050D+D050E+D050F+D050G+D050H+D050I+D051+D052+D052A+D053+D054+D054A+D055+D056",
   "+D057+D058+D059+D060+D061+D062+D063+D064+D065+D066+D067+D067A+D067B+D067C+D067D+D067E+D067F",
   "+D067G+D067H+E001+E002+E003+E004+E005+E006+E007+E008+E008A+E009+E009A+E010+E011+E012+E013+E014",
   "+E015+E016+E016A+E017+E017A+E018+E019+E020+E020A+E021+E022+E023+E024+E025+E026+E027+E028+E028A",
   "+E029+E030+E031+E032+E033+E034+E034A+E036+E037+E038+F001+F001A+F002+F003+F004+F005+F006+F007",
   "+F008+F009+F010+F011+F012+F013+F013A+F014+F015+F016+F017+F018+F019+F020+F021+F021A+F022+F023",
   "+F024+F025+F026+F027+F028+F029+F030+F031+F031A+F032+F033+F034+F035+F036+F037+F037A+F038+F038A",
   "+F039+F040+F041+F042+F043+F044+F045+F045A+F046+F046A+F047+F047A+F048+F049+F050+F051+F051A",
   "+F051B+F051C+F052+F053+G001+G002+G003+G004+G005+G006+G006A+G007+G007A+G007B+G008+G009+G010",
   "+G011+G011A+G012+G013+G014+G015+G016+G017+G018+G019+G020+G020A+G021+G022+G023+G024+G025+G026",
   "+G026A+G027+G028+G029+G030+G031+G032+G033+G034+G035+G036+G036A+G037+G037A+G038+G039+G040+G041",
   "+G042+G043+G043A+G044+G045+G045A+G046+G047+G048+G049+G050+G051+G052+G053+G054+H001+H002+H003",
   "+H004+H005+H006+H006A+H007+H008+I001+I002+I003+I004+I005+I005A+I006+I007+I008+I009+I009A+I010",
   "+I010A+I011+I011A+I012+I013+I014+I015+K001+K002+K003+K004+K005+K006+K007+K008+L001+L002+L002A",
   "+L003+L004+L005+L006+L006A+L007+L008+M001+M001A+M001B+M002+M003+M003A+M004+M005+M006+M007+M008",
   "+M009+M010+M010A+M011+M012+M012A+M012B+M012C+M012D+M012E+M012F+M012G+M012H+M013+M014+M015",
   "+M015A+M016+M016A+M017+M017A+M018+M019+M020+M021+M022+M022A+M023+M024+M024A+M025+M026+M027",
   "+M028+M028A+M029+M030+M031+M031A+M032+M033+M033A+M033B+M034+M035+M036+M037+M038+M039+M040",
   "+M040A+M041+M042+M043+M044+N001+N002+N003+N004+N005+N006+N007+N008+N009+N010+N011+N012+N013",
   "+N014+N015+N016+N017+N018+N018A+N018B+N019+N020+N021+N022+N023+N024+N025+N025A+N026+N027+N028",
   "+N029+N030+N031+N032+N033+N033A+N034+N034A+N035+N035A+N036+N037+N037A+N038+N039+N040+N041+N042",
   "+NL001+NL002+NL003+NL004+NL005+NL005A+NL006+NL007+NL008+NL009+NL010+NL011+NL012+NL013+NL014",
   "+NL015+NL016+NL017+NL017A+NL018+NL019+NL020+NU001+NU002+NU003+NU004+NU005+NU006+NU007+NU008",
   "+NU009+NU010+NU010A+NU011+NU011A+NU012+NU013+NU014+NU015+NU016+NU017+NU018+NU018A+NU019+NU020",
   "+NU021+NU022+NU022A+O001+O001A+O002+O003+O004+O005+O005A+O006+O006A+O006B+O006C+O006D+O006E",
   "+O006F+O007+O008+O009+O010+O010A+O010B+O010C+O011+O012+O013+O014+O015+O016+O017+O018+O019",
   "+O019A+O020+O020A+O021+O022+O023+O024+O024A+O025+O025A+O026+O027+O028+O029+O029A+O030+O030A",
   "+O031+O032+O033+O033A+O034+O035+O036+O036A+O036B+O036C+O036D+O037+O038+O039+O040+O041+O042",
   "+O043+O044+O045+O046+O047+O048+O049+O050+O050A+O050B+O051+P001+P001A+P002+P003+P003A+P004+P005",
   "+P006+P007+P008+P009+P010+P011+Q001+Q002+Q003+Q004+Q005+Q006+Q007+R001+R002+R002A+R003+R003A",
   "+R003B+R004+R005+R006+R007+R008+R009+R010+R010A+R011+R012+R013+R014+R015+R016+R016A+R017+R018",
   "+R019+R020+R021+R022+R023+R024+R025+R026+R027+R028+R029+S001+S002+S002A+S003+S004+S005+S006",
   "+S006A+S007+S008+S009+S010+S011+S012+S013+S014+S014A+S014B+S015+S016+S017+S017A+S018+S019+S020",
   "+S021+S022+S023+S024+S025+S026+S026A+S026B+S027+S028+S029+S030+S031+S032+S033+S034+S035+S035A",
   "+S036+S037+S038+S039+S040+S041+S042+S043+S044+S045+S046+T001+T002+T003+T003A+T004+T005+T006",
   "+T007+T007A+T008+T008A+T009+T009A+T010+T011+T011A+T012+T013+T014+T015+T016+T016A+T017+T018",
   "+T019+T020+T021+T022+T023+T024+T025+T026+T027+T028+T029+T030+T031+T032+T032A+T033+T033A+T034",
   "+T035+T036+U001+U002+U003+U004+U005+U006+U006A+U006B+U007+U008+U009+U010+U011+U012+U013+U014",
   "+U015+U016+U017+U018+U019+U020+U021+U022+U023+U023A+U024+U025+U026+U027+U028+U029+U029A+U030",
   "+U031+U032+U032A+U033+U034+U035+U036+U037+U038+U039+U040+U041+U042+V001+V001A+V001B+V001C",
   "+V001D+V001E+V001F+V001G+V001H+V001I+V002+V002A+V003+V004+V005+V006+V007+V007A+V007B+V008+V009",
   "+V010+V011+V011A+V011B+V011C+V012+V012A+V012B+V013+V014+V015+V016+V017+V018+V019+V020+V020A",
   "+V020B+V020C+V020D+V020E+V020F+V020G+V020H+V020I+V020J+V020K+V020L+V021+V022+V023+V023A+V024",
   "+V025+V026+V027+V028+V028A+V029+V029A+V030+V030A+V031+V031A+V032+V033+V033A+V034+V035+V036",
   "+V037+V037A+V038+V039+V040+V040A+W001+W002+W003+W003A+W004+W005+W006+W007+W008+W009+W009A+W010",
   "+W010A+W011+W012+W013+W014+W014A+W015+W016+W017+W017A+W018+W018A+W019+W020+W021+W022+W023+W024",
   "+W024A+W025+X001+X002+X003+X004+X004A+X004B+X005+X006+X006A+X007+X008+X008A+Y001+Y001A+Y002",
   "+Y003+Y004+Y005+Y006+Y007+Y008+Z001+Z002+Z002A+Z002B+Z002C+Z002D+Z003+Z003A+Z003B+Z004+Z004A",
   "+Z005+Z005A+Z006+Z007+Z008+Z009+Z010+Z011+Z012+Z013+Z014+Z015+Z015A+Z015B+Z015C+Z015D+Z015E",
   "+Z015F+Z015G+Z015H+Z015I+Z016+Z016A+Z016B+Z016C+Z016D+Z016E+Z016F+Z016G+Z016H+AA001+AA002",
   "+AA003+AA004+AA005+AA006+AA007+AA007A+AA007B+AA008+AA009+AA010+AA011+AA012+AA013+AA014+AA015",
   "+AA016+AA017+AA018+AA019+AA020+AA021+AA022+AA023+AA024+AA025+AA026+AA027+AA028+AA029+AA030",
   "+AA031+AA032^13430+ypJOINER+jwJOINER+INSERT ATxkSTART:ckSTART:xkgr:ckgr+qent+BEGIN SEGMENT",
   "+grSEGMENT^14400&ANATOLIAN HIEROGLYPH A001+A002+A003+A004+A005+A006+A007+A008+A009+A010+A010A",
   "+A011+A012+A013+A014+A015+A016+A017+A018+A019+A020+A021+A022+A023+A024+A025+A026+A026A+A027",
   "+A028+A029+A030+A031+A032+A033+A034+A035+A036+A037+A038+A039+A039A+A040+A041+A041A+A042+A043",
   "+A044+A045+A045A+A046+A046A+A046B+A047+A048+A049+A050+A051+A052+A053+A054+A055+A056+A057+A058",
   "+A059+A060+A061+A062+A063+A064+A065+A066+A066A+A066B+A066C+A067+A068+A069+A070+A071+A072+A073",
   "+A074+A075+A076+A077+A078+A079+A080+A081+A082+A083+A084+A085+A086+A087+A088+A089+A090+A091",
   "+A092+A093+A094+A095+A096+A097+A097A+A098+A098A+A099+A100+A100A+A101+A101A+A102+A102A+A103",
   "+A104+A104A+A104B+A104C+A105+A105A+A105B+A106+A107+A107A+A107B+A107C+A108+A109+A110+A110A",
   "+A110B+A111+A112+A113+A114+A115+A115A+A116+A117+A118+A119+A120+A121+A122+A123+A124+A125+A125A",
   "+A126+A127+A128+A129+A130+A131+A132+A133+A134+A135+A135A+A136+A137+A138+A139+A140+A141+A142",
   "+A143+A144+A145+A146+A147+A148+A149+A150+A151+A152+A153+A154+A155+A156+A157+A158+A159+A160",
   "+A161+A162+A163+A164+A165+A166+A167+A168+A169+A170+A171+A172+A173+A174+A175+A176+A177+A178",
   "+A179+A180+A181+A182+A183+A184+A185+A186+A187+A188+A189+A190+A191+A192+A193+A194+A195+A196",
   "+A197+A198+A199+A200+A201+A202+A202A+A202B+A203+A204+A205+A206+A207+A207A+A208+A209+A209A+A210",
   "+A211+A212+A213+A214+A215+A215A+A216+A216A+A217+A218+A219+A220+A221+A222+A223+A224+A225+A226",
   "+A227+A227A+A228+A229+A230+A231+A232+A233+A234+A235+A236+A237+A238+A239+A240+A241+A242+A243",
   "+A244+A245+A246+A247+A248+A249+A250+A251+A252+A253+A254+A255+A256+A257+A258+A259+A260+A261",
   "+A262+A263+A264+A265+A266+A267+A267A+A268+A269+A270+A271+A272+A273+A274+A275+A276+A277+A278",
   "+A279+A280+A281+A282+A283+A284+A285+A286+A287+A288+A289+A289A+A290+A291+A292+A293+A294+A294A",
   "+A295+A296+A297+A298+A299+A299A+A300+A301+A302+A303+A304+A305+A306+A307+A308+A309+A309A+A310",
   "+A311+A312+A313+A314+A315+A316+A317+A318+A319+A320+A321+A322+A323+A324+A325+A326+A327+A328",
   "+A329+A329A+A330+A331+A332A+A332B+A332C+A333+A334+A335+A336+A336A+A336B+A336C+A337+A338+A339",
   "+A340+A341+A342+A343+A344+A345+A346+A347+A348+A349+A350+A351+A352+A353+A354+A355+A356+A357",
   "+A358+A359+A359A+A360+A361+A362+A363+A364+A364A+A365+A366+A367+A368+A368A+A369+A370+A371+A371A",
   "+A372+A373+A374+A375+A376+A377+A378+A379+A380+A381+A381A+A382+A383rvpyRI+A383A+A384+A385+A386",
   "+A386A+A387+A388+A389+A390+A391+A392+A393gi+A394+A395+A396+A397+A398+A399+A400+A401+A402+A403",
   "+A404+A405+A406+A407+A408+A409+A410 BEGIN LOGOGRAMnm+A410AgrLOGOGRAMnm+A411+A412+A413+A414",
   "+A415+A416+A417+A418+A419+A420+A421+A422+A423+A424+A425+A426+A427+A428+A429+A430+A431+A432",
   "+A433+A434+A435+A436+A437+A438+A439+A440+A441+A442+A443+A444+A445+A446+A447+A448+A449+A450",
   "+A450A+A451+A452+A453+A454+A455+A456+A457+A457A+A458+A459+A460+A461+A462+A463+A464+A465+A466",
   "+A467+A468+A469+A470+A471+A472+A473+A474+A475+A476+A477+A478+A479+A480+A481+A482+A483+A484",
   "+A485+A486+A487+A488+A489+A490+A491+A492+A493+A494+A495+A496+A497+A501+A502+A503+A504+A505",
   "+A506+A507+A508+A509+A510+A511+A512+A513+A514+A515+A516+A517+A518+A519+A520+A521+A522+A523",
   "+A524+A525+A526+A527+A528+A529+A530^16800&BAMUMmqPHASE-A NGKUE MFON,GBIEE FON",
   ",PON MFON PIPAEMGBIEE;PIPAEMBA,NAA MFON,SHUENSHUET,TITA MFON,NZA MFON,SHINDAqhNJI",
   ",PONqhNJI PIPAEMGBIEE<PIPAEMBA,MAEMBGBIEE,TU MAEMBA,NGANGU,MAEMVEUX,MANSUAE,MVEUAENGAM,SEUNYAM",
   ",NTOQPEN,KEUKEUTNDA,NKINDI,SUU,NGKUENZEUM,LAPAQ,LET KUT,NTAP MFAA,MAEKEUP,PASHAE,GHEUAERAE",
   ",PAMSHAE,MON NGGEUAET,NZUN MEUT,U YUQ NAE,GHEUAEGHEUAE,NTAP NTAA,SISA,MGBASA,MEUNJOMNDEUQ",
   ",MOOMPUQ,KAFA,qhLEERAEWA,NDA LEERAEWA,PET,MAEMKPEN,NIKA,PUP,TUAEP,LUAEP,SONJAM,TEUTEUWEN",
   ",MAENYI,KET,NDAANGGEUAET,KUOQ,MOOMEUT,SHUM,LOMMAE,FIRI,ROM,KPOQ,SOQ,MAP PIEET,SHIRAE,NTAP",
   ",SHOQ NSHUT YUM,NYIT MONGKEUAEQ,PAARAE,NKAARAE,UNKNOWN,NGGEN,MAESI,NJAM,MBANYI,NYET,TEUAEN,SOT",
   ",PAAM,NSHIEE,MAEM,NYI,KAQ,NSHA,VEE,LU,NEN,NAQ,MBAQ+PHASE-B NSHUET,TU MAEMGBIEE,SIEE,SET TU",
   ",LOM NTEUM,MBA MAELEE,KIEEM,YEURAE,MBAARAE,KAM,PEESHI,YAFU LEERAEWA,maNSHUT NYAM,NTIEE SHEUOQ",
   ",NDU NJAA,GHEUGHEUAEM,PIT,TU NSIEE,SHET NJAQ,SHEUAEQTU,MFON TEUAEQ,MBIT MBAAKET,NYI NTEUM",
   ",KEUPUQ,GHEUGHEN,KEUYEUX,LAANAE,PARUM,VEUM,NGKINDI MVOP,NGGEU MBU,WUAET,SAKEUAE,TAAM,MEUQ",
   ",NGGUOQ:md,MFIYAQ,SUE,MBEURI,MONTIEEN,NYAEMAE,PUNGAAM,MEUT NGGEET,FEUX,MBUOQ,FEE,KEUAEM",
   ",nfNJEUAENA:NJUQA,LET,NGGAAM,NSEN,nf,KIQ,NGOM+PHASE-C NGKUE MAEMBA,NZA,YUM,WANGKUOQ,NGGEN",
   ",NDEUAEREE,NGKAQ,GHARAE,MBEEKEET,GBAYI,NYIR MKPARAQ MEUN,NTU MBIT,MBEUM,PIRIEEN,NDOMBU",
   ",MBAA CABBAGE-TREE,KEUSHEUAEP,GHAP,KEUKAQ,zpMUOMAE,NZEUM,MBUE,NSEUAEN,MBIT,YEUQ,KPARAQ,KAA",
   ",SEUX,NDIDA,TAASHAE,NJUEQ,TITA YUE,SUAET,NGGUAEN NYAM,VEUX,NANSANAQ,nfKEUAERI,NTAA,NGGUON,LAP",
   ",MBIRIEEN,MGBASAQ,NTEUNGBA,TEUTEUX,NGGUM,FUE,NDEUT,NSA,NSHAQ,BUNG,VEUAEPEN,MBERAE,RU,NJAEM,ma",
   ",TITUAEP,NSUOT NGOM,NJEEEE,KET,NGGU,MAESI,MBUAEM,LU,KUT,NJAM,NGOM,WUP,NGGUEET,NSOM,NTEN",
   ",KUOP NKAARAE,NSUN,NDAM,nfNSIEE,YAA,NDAP,SHUEQ,SETFON,MBI,MAEMBA,MBANYI,KEUSEUX,MBEUX,KEUM",
   ",MBAA PICKET,YUWOQ,NJEUX,MIEE,MUAE,SHIQ,KEN LAW:FATIGUE,NGAQ,NAQ,LIQ,PIN,PEN,TET+PHASE-D MBUO",
   ",WAP,NJI,MFON,NJIEE,LIEE,NJEUT,NSHEE,NGGAAMAE,NYAM,WUAEN,NGKUN,SHEE,NGKAP,KEUAETMEUN,TEUT",
   ",SHEUAE,NJAP,SUE,KET,YAEMMAE,KUOM,SAP,MFEUT,NDEUX,MALEERI,MEUT,SEUAEQ,YEN,NJEUAEM,KEUOT MBUAE",
   ",NGKEURI,TU,GHAA,NGKYEE,FEUFEUAET,NDEE,MGBOFUM,LEUAEP,NDON,MONI,MGBEUN,PUUT,MGBIEE,MFO,LUM",
   ",NSIEEP,MBAA,KWAET,NYET,TEUAEN,SOT,YUWOQ,KEUM,RAEM,TEEEE,NGKEUAEQ,MFEUAE,NSIEET,KEUP,PIP",
   ",PEUTAE,NYUE,LET,NGGAAM,MFIEE,NGGWAEN,YUOM,PAP,YUOP,NDAM,NTEUM,SUAE,KUN,NGGEUX,NGKIEE,TUOT",
   ",MEUN,KUQ,NSUM,TEUN,MAENJET,NGGAP,LEUM,NGGUOM,NSHUT,NJUEQ,GHEUAE,KU,RENpp,TAE,TOQ,NYI,RII",
   ",LEEEE,MEEEE,M,SUU,of,SHII,SHEUX,KYEE,NU,SHU,NTEE,PEE,NI,SHOQ,PUQ,MVOP,LOQ,REN MUCH,TI,NTUU",
   ",MBAAto,SAQ,FAA+PHASE-E NDAP,TOON,MBEUM,LAP,VOM,LOON,PAA,SOM,RAQ,NSHUOP,NDUN,PUAE,TAM,NGKA",
   ",KPEUX,WUO,SEE,NGGEUAET,PAAM,TOO,KUOP,LOM,NSHIEE,NGOP,MAEM,NGKEUX,NGOQ,NSHUE,RIMGBA,NJEUX,PEEM",
   ",SAA,NGGURAE,MGBA,GHEUX,NGKEUAEM,NJAEMLI,MAP,LOOT,NGGEEEE,NDIQ,TAEN NTEUM,SET,PUM",
   ",NDAA SOFTNESS,NGGUAESHAE NYAM,YIEE,GHEUN,TUAE,YEUAE,PO,TUMAE,KEUAE,SUAEN,TEUAEQ,VEUAE,WEUX",
   ",LAAM,PU,TAAQ,GHAAMAE,NGEUREUT,SHEUAEQ,MGBEN,MBEE,NZAQ,NKOM,GBET,TUM,KUET,YAP,NYI CLEAVER,YIT",
   ",MFEUQ,NDIAQ,PIEEQ,YUEQ,LEUAEM,FUE,GBEUX,NGKUP,KET,MAE,NGKAAMI,GHET,hg,NTUM,PEUT,YEUM,NGGEUAE",
   ",NYIcc,NZUQ,POON,MIEE,FUET,NAE,MUAE,GHEUAE,FU I,MVI,PUAQ,NGKUM,KUT,PIET,NTAP,YEUAET,NGGUP",
   ",qhPEOPLE,FU CALL,FOM,NJEE,A,TOQ,O,I,LAQ,qhPLURAL,TAA,TAQ,NDAA MY HOUSE,SHIQ,YEUX,NGUAE,YUAEN",
   ",YOQ SWIMMING:COVER,YUQ,YUN,KEUX,PEUX,NJEE EPOCH,PUE,WUE,FEE,VEE,LU,MI,REUX,RAE,NGUAET,oq,SHO",
   ",SHOQ,FU REMEDY,ok,qw,LOQ,KO,MEN,nf,MAQ,TEU,KI,MON,wk,FAQ,GHOM+PHASE-Fle,U,KU,gg,REE,TAE,NYI",
   ",ly,RII,RIEE,MEEEE,TAA,NDAA,NJAEM,M,SUU,SHII,SI,SEUX,KYEE,KET,NUAE,NU,NJUAE,YOQ,SHU,zj,NSHA",
   ",PEUX,NTEE,WUE,PEE,RU,NI,REUX,KEN,NGKWAEN,NGGA,SHO,PUAE,FOM,yx,LI,LOQ,KO,MBEN,REN,nf,MO,MBAA",
   ",TET,KPA,SAMBA,VUEQ^16A40&MROmqvx+NGI+YO+MIM+bm+es+A+qu+KHAI+HAO+DAI+CHU+KEAAE+OL+MAEM+NIN+qh",
   "+pu+O+RO+SHI+THEA+EA+yx+E+KO+LAN+ly+HAI+RI+TEK^16A60*fozw+pt+yb+wy+ib+hu+um+to+gi+or^16A6E*ex",
   "*fxex&TANGSAmqOZ+OC+OQ+OX+AZ+AC+AQ+AX+VZ+VC+VQ+VX+EZ+EC+EQ+EX+IZ+IC+IQ+IX+UZ+UC+UQ+UX+AWZ+AWC",
   "+AWQ+AWX+UIZ+UIC+UIQ+UIX+hqNG+myUEX+ucUEZ,AWX+UEC+UEZ+UEQ+UEX+UIUZ+UIUC+UIUQ+UIUX+MZ+MC+MQ+MX",
   "+le+ln+ig+oq+sx+zj+yx+qh+pj+qt+bm+nf+ok+iw+ly+HTA+vx+es+rv+NHA+tr+cr+xr+il+HTTA+wm+XA+hg+fg+de",
   "+zr^16AC0*fozw+pt+yb+wy+ib+hu+um+to+gi+or^16AD0&BASSA VAHmqENNI,le,SE,hg,MBE,YIE,GAH,DHII,KPAH",
   ",JO,HWAH,yx,ZO,GBU,DO,CE,UWU,xe,bm,VU,YEIN,qh,WADDA,A,O,pu,U,gg,E,I^16AF0+dvjrxf,nbxf,MIDxf",
   ",LOW-MIDxf,HIGH-LOWxf+ifvh^16B00&PAHAWH HMONGywKEEB,KEEV,KIB,KIV,KAUB,KAUV,KUB,KUV,KEB,KEV",
   ",KAIB,KAIV,KOOB,KOOV,KAWB,KAWV,KUAB,KUAV,KOB,KOV,KIAB,KIAV,KAB,KAV,KWB,KWV,KAAB,KAAV+eaVAU",
   ",NTSAU,LAU,HAU,NLAU,RAU,NKAU,QHAU,YAU,HLAU,MAU,CHAU,NCHAU,HNAU,PLHAU,NTHAU,NAU,bj,XAU,CAU",
   "+nmCIM TUB:SO:KES:KHAV:SUAM:HOM:TAUM+uhVOS THOM:TSHAB CEEB,CIM CHEEM,VOS THIAB:FEEM",
   ",XYEEM NTXIV:se:TOV:FAIB,VOS SEEV,MEEJ SUAB,VOS NRUA,IB YAM,XAUS,CIM TSOV ROG^16B50+fozw,pt,yb",
   ",wy,ib,hu,um,to,gi,or^16B5B+pgTENS,HUNDREDS,wkwx,nv,jynv,wkBILLIONS,TRILLIONS^16B63+uhVOS LUB",
   ",XYOO,HLI,THIRD-STAGE HLI,ZWJ THAJ,HNUB,NQIG,XIAB,NTUJ,AV,TXHEEJ CEEV,MEEJ TSEEB,we,LOS,MUS",
   ",CIM HAIS LUS NTOG NTOG:CUAM TSHOOJ:TXWV;CHWV:PUB DAWB:NRES TOS^16B7D+CLANuhTSHEEJ:YEEG:LIS",
   ":LAUJ:XYOOJ:KOO:HAWJ:MUAS:THOJ:TSAB:PHAB:KHAB:HAM:VAJ:FAJ:YAJ:TSWB:KWM:VWJ",
   "^16E40&MEDEFAIDRINcvmqM,S,V,W,ATIU,Z,KP,P,T,G,F,I,K,A,J,E,B,C,U,zp,L,Q,HP,NY,X,D,pm,N,R,O,ag,Y",
   "*usmqM,S,V,W,ATIU,Z,KP,P,T,G,F,I,K,A,J,E,B,C,U,zp,L,Q,HP,NY,X,D,pm,N,R,O,ag,Y*fozw+pt+yb+wy+ib",
   "+hu+um+to+gi+or*pgwk+go+xz+wu+ic+hm+un+tp+gj+os*foptaohy+ybaohy+wyaohy*dw*ifvh*vwAIVA*hbOH",
   "^16F00&MIAOmqqh+bm+YIqh+PLA+nf+MHA+bbnf+hg+ym+VFA+vx+es+YIxu,vx+xu+fb+ok+NHA+YIou+bbok+ou+NNHA",
   "+ly+LYA+LHA+LHYA+TLHA+DLHA+TLHYA+DLHYA+le+ig+YIle+QA+QGA+oq+NGHA+bboq+iw+XA+il+GHHA+TSSA+DZZA",
   "+pj+NYHA+xs+DZHA+YIxs,DZHA+REFORMEDxs+tr+ve+zy+ZSHA+xr+DZA+YIxr+sx+zr+ZSA+ZZA+ZZSA+bbZZA+ZZYA",
   "+ZZSYA+yx+AH+HHA+BRI+SYI+DZYI+wf+TSE+RTE^16F4F*uheanxbt*mqNASALIZATION*uhASPIRATION",
   "+REFORMED VOICING,ASPIRATION*ywuhA,aa,AHH,ar,ANG,O,pu,WO,W,E,gq,ENG,OEY,I,IA,IAN,IANG,IO,IE,ke",
   ",IU,ING,U,UA,UAN,UANG,yl,UEI,UNG,Y,YI,AE,AEE,ERR,stERR,ER,stER,ag,EI,bj,OU,N,NG,UOG,YUI,OG,OER",
   ",VW,IG,EA,IONG,UI^16F8F*xfsg+xksg+ad+bx*mqxg+xh+TONE-4+xi+TONE-6+TONE-7+TONE-8+REFORMED TONE-1",
   ",xg,TONE-4,xi,TONE-6,TONE-8^16FE0&TANGUTkxnm&NUSHUkxnm&ppCHINESEjvnm+kxnm&KHITANustghp",
   "^16FF0&VIETNAMESEaoREADINGnmcr:NHAY"]

end Assay.Text.CharacterName
